import Blueprint.Proofs.Synthesis.AllOrNothing

/-! What a synthesis may take from the files that were there before. A file is out of danger as long
as nothing is asked for that could take it, so for most files it is enough to look at what a
synthesis asks for at all. -/

namespace Blueprint

/-- Whether a change takes the file at a path: it writes there or removes what is there. -/
def Change.Takes (parts : List Path.Part) : Change → Prop
  | .makeDirs _ => False
  | .write path _ => Path.parts path = parts
  | .removeTree path => Path.parts path <+: parts

/-- A file is kept by every change that does not take it. -/
theorem Store.mem_files_apply {before after : Store} {c : Change} {file : StoredFile}
    (hApply : before.apply c = .ok after) (hFile : file ∈ before.files)
    (hTakes : ¬ c.Takes file.parts) : file ∈ after.files := by
  cases c with
  | makeDirs path =>
      obtain rfl := Except.ok.inj hApply
      exact hFile
  | write path content =>
      exact ((wroteFile_of_write hApply).others file (Ne.symm hTakes)).mpr hFile
  | removeTree path =>
      obtain rfl := Except.ok.inj hApply
      exact ((removedTree_removeTree before path).files file).mpr ⟨hFile, hTakes⟩

/-- A file is still there as it was, and nothing has been asked for that takes it. -/
structure Untouched (file : StoredFile) (before after : Trial) : Prop where
  kept : file ∈ after.store.files
  unasked : ∃ asked, after.asked = asked ++ before.asked ∧
    ∀ c, .change c ∈ asked → ¬ c.Takes file.parts

namespace Untouched

variable {file : StoredFile} {before trial : Trial}

theorem refl (h : file ∈ before.store.files) : Untouched file before before :=
  ⟨h, [], rfl, by simp⟩

/-- One more question, with what it does to the files. -/
theorem ask {after : Trial} (h : Untouched file before trial) {question : Ask}
    (hKept : file ∈ after.store.files) (hAsked : after.asked = question :: trial.asked)
    (hQuestion : ∀ c, question = .change c → ¬ c.Takes file.parts) :
    Untouched file before after := by
  obtain ⟨-, asked, hBefore, hUnasked⟩ := h
  refine ⟨hKept, question :: asked, by rw [hAsked, hBefore, List.cons_append], fun c hMem => ?_⟩
  rcases List.mem_cons.mp hMem with hLast | hEarlier
  · exact hQuestion c hLast.symm
  · exact hUnasked c hEarlier

/-- A question that is not for a change does no harm. -/
theorem record (h : Untouched file before trial) {question : Ask}
    (hQuestion : ∀ c, question ≠ .change c) : Untouched file before (trial.record question) :=
  h.ask h.kept rfl fun c hChange => absurd hChange (hQuestion c)

/-- Whatever is recorded of a question, its answer does no harm unless it is a change that takes
the file. -/
theorem answer (h : Untouched file before trial) {question asked : Ask}
    (hQuestion : ∀ c, question = .change c → ¬ c.Takes file.parts)
    (hAlike : question.Alike asked) :
    Untouched file before ((Trial.answer question trial).2.record asked) := by
  have hAsked := congrArg (asked :: ·) (Trial.answer_frame question trial).1
  cases question with
  | change c =>
      obtain rfl : asked = .change c := hAlike
      refine h.ask ?_ hAsked hQuestion
      rw [Trial.record_store, Trial.answer]
      rcases trial.change_cases c with ⟨store, hApply, hChange⟩ | ⟨fault, -, hChange⟩
      · rw [hChange]
        exact Store.mem_files_apply hApply h.kept (hQuestion c rfl)
      · rw [hChange]
        exact h.kept
  | note event =>
      obtain ⟨other, rfl⟩ := hAlike
      exact h.record (by simp)
  | _ =>
      obtain rfl := hAlike
      exact h.record (by simp)

end Untouched

/-- A file that a script asks for no change to stays untouched. -/
theorem Script.Asks.ensures_untouched {α : Type} {s : Script α} {file : StoredFile}
    {before trial : Trial} (h : s.Asks fun c => ¬ c.Takes file.parts)
    (hSoFar : Untouched file before trial) :
    s.Ensures (fun _ t => Untouched file before t) trial := by
  induction h generalizing trial with
  | done a => exact hSoFar
  | ask hQuestion _ ih => exact fun asked hAlike => ih _ (hSoFar.answer hQuestion hAlike)

theorem Job.Asks.ensures_untouched {ε α : Type} {job : Job ε α} {file : StoredFile}
    {before trial : Trial} (h : job.Asks fun c => ¬ c.Takes file.parts)
    (hSoFar : Untouched file before trial) :
    job.Ensures (fun _ t => Untouched file before t) (fun _ t => Untouched file before t)
      trial := by
  refine (Script.Asks.ensures_untouched h hSoFar).mono fun result t hUntouched => ?_
  cases result with
  | ok a | error e => exact hUntouched

namespace Synthesizer

variable {s : Synthesizer} {root : String} {file : StoredFile} {before trial : Trial}
  {request : SynthesisRequest}

/-! ### What a synthesis asks for -/

section Asks

variable {P : Change → Prop}

theorem asks_noteStep (level : Trace.Level) (message : String) (fields : List Trace.Field) :
    (noteStep level message fields).Asks P :=
  (Script.quiet_note _ _ _ _).asks P

theorem asks_perform {c : Change} (h : P c) : (s.perform c).Asks P := by
  refine (Job.asks_lift (Script.asks_change h)).bind fun result => ?_
  cases result with
  | ok _ => exact Job.asks_pure _
  | error fault => exact Job.asks_throw _

theorem asks_writeAll (hDirectories : ∀ path, P (.makeDirs path)) {set : ArtifactSet}
    (hWrite : ∀ artifact ∈ set.artifacts,
      P (.write (Path.join root artifact.path.text) artifact.content)) :
    (s.writeAll root set).Asks P := by
  refine (asks_perform (hDirectories root)).bind fun _ => Job.asks_forM fun artifact hMem => ?_
  have hFile : Job.Asks P (do
      noteStep .debug "Writing artifact" [("path", .bare (Path.join root artifact.path.text))]
      s.perform (.write (Path.join root artifact.path.text) artifact.content)) :=
    (Job.asks_lift (asks_noteStep _ _ _)).bind fun _ => asks_perform (hWrite artifact hMem)
  unfold writeArtifact
  dsimp only
  cases Path.directory? (Path.join root artifact.path.text) with
  | none => exact hFile
  | some directory => exact (asks_perform (hDirectories directory)).bind fun _ => hFile

theorem asks_rollback (hRemove : P (.removeTree root)) : (s.rollback root).Asks P := by
  refine Script.Asks.bind (asks_perform hRemove) fun result => ?_
  cases result with
  | ok _ | error e => exact asks_noteStep _ _ _

theorem quiet_pathExists (path : String) : (Script.pathExists path).Quiet :=
  .ask (by simp) fun _ => .done _

theorem quiet_checkReplaceable (root : String) : (checkReplaceable root).Quiet := by
  have hHolds : (Script.holdsWorkingDir root).Quiet := .ask (by simp) fun _ => .done _
  unfold checkReplaceable
  dsimp only
  refine (Job.quiet_lift hHolds).bind fun holds => ?_
  split
  · exact Job.quiet_throw _
  · refine (Job.quiet_lift (quiet_pathExists _)).bind fun there => ?_
    split
    · exact Job.quiet_throw _
    · exact Job.quiet_pure _

theorem asks_clear (hRemove : P (.removeTree root)) (force : Bool) :
    (s.clear root force).Asks P := by
  have hReplace : Job.Asks P (do
      checkReplaceable root
      noteStep .warn "Replacing existing output directory" [("path", .bare root)]
      s.perform (.removeTree root)) := by
    refine Job.Asks.bind ((quiet_checkReplaceable root).asks P) fun _ => ?_
    exact (Job.asks_lift (asks_noteStep _ _ _)).bind fun _ => asks_perform hRemove
  refine (Job.asks_lift ((quiet_pathExists root).asks P)).bind fun there => ?_
  cases there with
  | false => exact Job.asks_pure _
  | true =>
      cases force with
      | false => exact Job.asks_throw _
      | true => exact hReplace

/-- All that writing asks for: directories, the removal of the output directory, and the rendered
files. -/
theorem asks_writeArtifacts (hDirectories : ∀ path, P (.makeDirs path))
    (hRemove : P (.removeTree root)) {set : ArtifactSet}
    (hWrite : ∀ artifact ∈ set.artifacts,
      P (.write (Path.join root artifact.path.text) artifact.content)) (force : Bool) :
    (s.writeArtifacts root set force).Asks P := by
  refine (asks_clear hRemove force).bind fun _ => ?_
  refine (Job.asks_attempt (asks_writeAll hDirectories hWrite)).bind fun result => ?_
  cases result with
  | ok _ => exact Job.asks_lift (asks_noteStep _ _ _)
  | error e =>
      refine (Job.asks_lift (asks_noteStep _ _ _)).bind fun _ => ?_
      exact (Job.asks_lift (asks_rollback hRemove)).bind fun _ => Job.asks_throw _

theorem asks_finish_of_dryRun (hDry : request.dryRun = true) (rendered : Rendered) :
    (s.finish request rendered).Asks P := by
  refine (Job.asks_lift (asks_noteStep _ _ _)).bind fun _ => ?_
  simp only [hDry, if_true]
  exact (Job.asks_lift (asks_noteStep _ _ _)).bind fun _ => Job.asks_pure _

/-- A file that does not lie below the given output directory is never asked for. -/
theorem asks_writeArtifacts_of_outside (hRoot : root ≠ "")
    (hOutside : ¬ Path.parts root <+: file.parts) (set : ArtifactSet) (force : Bool) :
    (s.writeArtifacts root set force).Asks fun c => ¬ c.Takes file.parts := by
  apply asks_writeArtifacts (fun _ h => h) hOutside
  intro artifact _ hTakes
  apply hOutside
  rw [← show Path.parts (Path.join root artifact.path.text) = file.parts from hTakes]
  exact Path.parts_isPrefix_join hRoot artifact.path

end Asks

/-! ### What a synthesis may take -/

/-- The output directory may be replaced: this was asked for, and what is there holds an assembly
and not the working directory. -/
structure Replaceable (request : SynthesisRequest) (before : Trial) : Prop where
  writes : request.dryRun = false
  forced : request.force = true
  there : before.store.contains request.outDir = true
  assembly : before.store.contains (Path.join request.outDir manifestFile) = true
  named : Path.hasName (Path.parts request.outDir) = true
  elsewhere : before.holdsWorkingDir request.outDir = false

/-- No output directory is given. Nothing stands at the empty path, so that it is taken for a new
directory, but every file lies below it. -/
structure Unguarded (request : SynthesisRequest) (before : Trial) : Prop where
  writes : request.dryRun = false
  nameless : request.outDir = ""
  missing : before.store.contains "" = false

theorem Replaceable.of_asked {asked : List Ask} (h : Replaceable request { trial with asked }) :
    Replaceable request trial :=
  ⟨h.writes, h.forced, h.there, h.assembly, h.named, h.elsewhere⟩

theorem Unguarded.of_asked {asked : List Ask} (h : Unguarded request { trial with asked }) :
    Unguarded request trial :=
  ⟨h.writes, h.nameless, h.missing⟩

/-- What passes the check is named, does not hold the working directory and holds an assembly. -/
theorem ensures_checkReplaceable_ok (root : String) (trial : Trial) :
    (checkReplaceable root).Ensures
      (fun _ _ => Path.hasName (Path.parts root) = true ∧ trial.holdsWorkingDir root = false ∧
        trial.store.contains (Path.join root manifestFile) = true)
      (fun _ _ => True) trial := by
  unfold checkReplaceable
  dsimp only
  rw [Job.ensures_bind, Job.ensures_lift, Script.ensures_holdsWorkingDir]
  split
  · trivial
  next hApart =>
    rw [Job.ensures_bind, Job.ensures_lift, Script.ensures_pathExists]
    split
    · trivial
    next hThere =>
      simp only [Bool.or_eq_true, Bool.not_eq_true', not_or, Bool.not_eq_false,
        Bool.not_eq_true] at hApart hThere
      exact ⟨hApart.1, hApart.2, hThere⟩

/-- What is there and must not be replaced is not touched, and no room is made. -/
theorem ensures_clear_of_not_replaceable (trial : Trial) (hWrites : request.dryRun = false)
    (hThere : trial.store.contains request.outDir = true) (hKept : ¬ Replaceable request trial)
    (hSoFar : Untouched file before trial) :
    (s.clear request.outDir request.force).Ensures (fun _ _ => False)
      (fun _ t => Untouched file before t) trial := by
  have hAsked : Untouched file before (trial.record (.pathExists request.outDir)) :=
    hSoFar.record (by simp)
  unfold clear
  rw [Job.ensures_bind, Job.ensures_lift, Script.ensures_pathExists, hThere]
  cases hForce : request.force with
  | false => exact hAsked
  | true =>
      have hQuiet := (quiet_checkReplaceable request.outDir).asks fun c => ¬ c.Takes file.parts
      have hChecked := (ensures_checkReplaceable_ok request.outDir
        (trial.record (.pathExists request.outDir))).and (Job.Asks.ensures_untouched hQuiet hAsked)
      show Job.Ensures _ _ (do
        checkReplaceable request.outDir
        noteStep .warn "Replacing existing output directory" [("path", .bare request.outDir)]
        s.perform (.removeTree request.outDir)) _
      rw [Job.ensures_bind]
      refine hChecked.mono (fun _ t h => ?_) fun _ t h => h.2
      obtain ⟨⟨hNamed, hElsewhere, hAssembly⟩, -⟩ := h
      exact absurd ⟨hWrites, hForce, hThere, hAssembly, hNamed, hElsewhere⟩ hKept

/-- Without an output directory, writing that succeeds touches only the files whose paths it
renders. -/
theorem ensures_writeArtifacts_of_nameless (trial : Trial)
    (hMissing : trial.store.contains "" = false) (hSoFar : Untouched file before trial)
    {set : ArtifactSet}
    (hOther : ∀ artifact ∈ set.artifacts, Path.parts artifact.path.text ≠ file.parts)
    (force : Bool) :
    (s.writeArtifacts "" set force).Ensures (fun _ t => Untouched file before t)
      (fun _ _ => True) trial := by
  have hAsked : Untouched file before (trial.record (.pathExists "")) := hSoFar.record (by simp)
  have hAll : (s.writeAll "" set).Asks fun c => ¬ c.Takes file.parts := by
    apply asks_writeAll (fun _ h => h)
    intro artifact hMem hTakes
    apply hOther artifact hMem
    rw [Path.join_nil] at hTakes
    exact hTakes
  unfold writeArtifacts clear
  rw [Job.ensures_bind, Job.ensures_bind, Job.ensures_lift, Script.ensures_pathExists, hMissing,
    if_neg Bool.false_ne_true, Job.ensures_pure, Job.ensures_bind, Job.ensures_attempt]
  refine (Job.Asks.ensures_untouched hAll hAsked).mono (fun _ t hWritten => ?_) fun e t _ => ?_
  · rw [Job.ensures_lift, ensures_noteStep]
    exact fun event => hWritten.record (by simp)
  · rw [Job.ensures_bind, Job.ensures_lift, ensures_noteStep]
    intro event
    rw [Job.ensures_bind, Job.ensures_lift]
    exact (ensures_rollback s "" _).mono fun _ _ _ => trivial

/-- What writing ensures is ensured by all that follows the rendering. -/
theorem ensures_finish_of_writeArtifacts (hWrites : request.dryRun = false) (rendered : Rendered)
    {ok : Trial → Prop} {error : Failure → Trial → Prop}
    (hWriting : ∀ event, (s.writeArtifacts request.outDir rendered.artifacts request.force).Ensures
      (fun _ t => ok t) error (trial.record (.note event))) :
    (s.finish request rendered).Ensures (fun _ t => ok t) error trial := by
  rw [finish, Job.ensures_bind, Job.ensures_lift, ensures_noteStep]
  intro event
  simp only [hWrites, Bool.false_eq_true, if_false]
  rw [Job.ensures_bind]
  exact hWriting event

/-- A file is untouched if it does not lie in an output directory that may be replaced, as long as
there is an output directory. -/
theorem ensures_finish_untouched (trial : Trial) (hStore : trial.store.Reachable)
    (hMay : ¬ (Replaceable request trial ∧ Path.parts request.outDir <+: file.parts))
    (hGuarded : ¬ Unguarded request trial) (hSoFar : Untouched file before trial)
    (rendered : Rendered) :
    (s.finish request rendered).Ensures (fun _ t => Untouched file before t)
      (fun _ t => Untouched file before t) trial := by
  cases hWrites : request.dryRun with
  | true => exact Job.Asks.ensures_untouched (asks_finish_of_dryRun hWrites rendered) hSoFar
  | false =>
      apply ensures_finish_of_writeArtifacts hWrites
      intro event
      have hNoted : Untouched file before (trial.record (.note event)) := hSoFar.record (by simp)
      by_cases hUnder : Path.parts request.outDir <+: file.parts
      · have hThere : trial.store.contains request.outDir = true := by
          by_contra hAbsent
          rw [Bool.not_eq_true] at hAbsent
          by_cases hOut : request.outDir = ""
          · exact hGuarded ⟨hWrites, hOut, hOut ▸ hAbsent⟩
          · have hNone := hStore.wellPlaced.under_eq_nil hOut hAbsent
            rw [Store.under, List.filter_eq_nil_iff] at hNone
            exact hNone file hSoFar.kept (List.isPrefixOf_iff_prefix.mpr hUnder)
        have hKept : ¬ Replaceable request (trial.record (.note event)) := fun h =>
          hMay ⟨h.of_asked, hUnder⟩
        rw [writeArtifacts, Job.ensures_bind]
        exact (ensures_clear_of_not_replaceable (trial.record (.note event)) hWrites hThere hKept
          hNoted).mono (fun _ _ h => h.elim) fun _ _ h => h
      · have hOut : request.outDir ≠ "" := by
          rintro hOut
          rw [hOut] at hUnder
          exact hUnder List.nil_prefix
        exact Job.Asks.ensures_untouched (asks_writeArtifacts_of_outside hOut hUnder _ _) hNoted

/-- Without an output directory, a synthesis that succeeds touches only the files whose paths it
renders. -/
theorem ensures_finish_of_unguarded (trial : Trial) (hOpen : Unguarded request trial)
    (hSoFar : Untouched file before trial) {rendered : Rendered}
    (hOther : ∀ artifact ∈ rendered.artifacts.artifacts,
      Path.parts artifact.path.text ≠ file.parts) :
    (s.finish request rendered).Ensures (fun _ t => Untouched file before t) (fun _ _ => True)
      trial := by
  apply ensures_finish_of_writeArtifacts hOpen.writes
  intro event
  rw [hOpen.nameless]
  exact ensures_writeArtifacts_of_nameless (trial.record (.note event)) hOpen.missing
    (hSoFar.record (by simp)) hOther _

/-- Up to the rendering nothing is touched, so what matters is what follows it. -/
theorem ensures_synthesize_of_finish (hSource : s.source.load.Quiet)
    (hRender : ∀ a metadata, (s.render a metadata).Quiet) (hFile : file ∈ before.store.files)
    {ok : SynthesisReport → Trial → Prop} {error : Failure → Trial → Prop}
    (hPrepare : ∀ e t, Untouched file before t → error e t)
    (hFinish : ∀ rendered asked, (before.run s.prepare.run).1 = .ok rendered →
      Untouched file before { before with asked } →
      (s.finish request rendered).Ensures ok error { before with asked }) :
    (s.synthesize request).Ensures ok error before := by
  obtain ⟨span, hSynthesize⟩ := synthesize_eq s request
  rw [hSynthesize]
  refine Job.Ensures.within ?_ span
  have hQuiet := quiet_prepare hSource hRender
  have hUntouched := Script.Asks.ensures_untouched (hQuiet.asks _) (Untouched.refl hFile)
  rw [Job.ensures_bind]
  refine ((hQuiet.ensures_run before).and hUntouched).mono fun result t h => ?_
  obtain ⟨⟨hResult, asked, rfl⟩, hSoFar⟩ := h
  cases result with
  | ok rendered => exact hFinish rendered asked hResult.symm hSoFar
  | error e => exact hPrepare e _ hSoFar

/-- How a synthesis treats a file that was there before. -/
inductive Treats (s : Synthesizer) (request : SynthesisRequest) (file : StoredFile)
    (before : Trial) (result : Except Failure SynthesisReport) (after : Trial) : Prop where
  /-- It is as it was. -/
  | spared (h : Untouched file before after)
  /-- It lies in an output directory that may be replaced. -/
  | replaced (h : Replaceable request before) (hUnder : Path.parts request.outDir <+: file.parts)
  /-- No output directory is given, and a file is rendered for its path or the synthesis fails after
  rendering. -/
  | exposed (h : Unguarded request before) {rendered : Rendered}
      (hRendered : (before.run s.prepare.run).1 = .ok rendered)
      (hReached : (∃ artifact ∈ rendered.artifacts.artifacts,
        Path.parts artifact.path.text = file.parts) ∨ ∃ e, result = .error e)

/-- A synthesis takes no file that it was not asked to replace, unless it was given no output
directory. The source and the renderer are any that change no files themselves. -/
theorem synthesize_treats_files (s : Synthesizer) (request : SynthesisRequest) (before : Trial)
    (hStore : before.store.Reachable) (hSource : s.source.load.Quiet)
    (hRender : ∀ a metadata, (s.render a metadata).Quiet) (file : StoredFile)
    (hFile : file ∈ before.store.files) :
    Treats s request file before (before.run (s.synthesize request).run).1
      (before.run (s.synthesize request).run).2 := by
  by_cases hMay : Replaceable request before ∧ Path.parts request.outDir <+: file.parts
  · exact .replaced hMay.1 hMay.2
  apply Job.Ensures.run
  apply ensures_synthesize_of_finish hSource hRender hFile
  · exact fun e t h => .spared h
  intro rendered asked hRendered hSoFar
  by_cases hOpen : Unguarded request before
  · by_cases hReached : ∃ artifact ∈ rendered.artifacts.artifacts,
        Path.parts artifact.path.text = file.parts
    · exact (Job.ensures_frame _ _).mono (fun _ _ _ => .exposed hOpen hRendered (.inl hReached))
        fun _ _ _ => .exposed hOpen hRendered (.inl hReached)
    · have hOpen' : Unguarded request { before with asked } :=
        ⟨hOpen.writes, hOpen.nameless, hOpen.missing⟩
      have hOther : ∀ artifact ∈ rendered.artifacts.artifacts,
          Path.parts artifact.path.text ≠ file.parts := fun artifact hMem hParts =>
        hReached ⟨artifact, hMem, hParts⟩
      exact (ensures_finish_of_unguarded { before with asked } hOpen' hSoFar hOther).mono
        (fun _ _ h => .spared h) fun e _ _ => .exposed hOpen hRendered (.inr ⟨e, rfl⟩)
  · have hGuarded : ¬ Unguarded request { before with asked } := fun h => hOpen h.of_asked
    have hMay' : ¬ (Replaceable request { before with asked } ∧
        Path.parts request.outDir <+: file.parts) := fun h => hMay ⟨h.1.of_asked, h.2⟩
    exact (ensures_finish_untouched { before with asked } hStore hMay' hGuarded hSoFar
      rendered).mono (fun _ _ h => .spared h) fun _ _ h => .spared h

/-- A synthesizer that renders a manifest for a site. -/
def manifestOnly : Synthesizer :=
  { brief with render := fun _ _ => pure ⟨[⟨⟨manifestFile, by decide⟩, "rendered"⟩]⟩ }

/-- A machine with two files and no directory, on which only so many files can be written. -/
def twoFiles (writes : Nat) : Trial :=
  { Trial.blank with
    store := ⟨[⟨manifestFile, "mine"⟩, ⟨"notes.txt", "mine"⟩], []⟩
    refusal := Trial.refuseAfter fun kind => if kind = "write" then some writes else none }

theorem reachable_twoFiles (writes : Nat) : (twoFiles writes).store.Reachable :=
  (Store.Reachable.empty.change (.write manifestFile "mine") rfl).change
    (.write "notes.txt" "mine") rfl

theorem synthesize_treats_files_twoFiles :
    (twoFiles 1).store.Reachable ∧ manifestOnly.source.load.Quiet ∧
      (∀ a metadata, (manifestOnly.render a metadata).Quiet) ∧
      (⟨"notes.txt", "mine"⟩ : StoredFile) ∈ (twoFiles 1).store.files ∧
      Treats manifestOnly ⟨"out", false, false⟩ ⟨"notes.txt", "mine"⟩ (twoFiles 1)
        ((twoFiles 1).run (manifestOnly.synthesize ⟨"out", false, false⟩).run).1
        ((twoFiles 1).run (manifestOnly.synthesize ⟨"out", false, false⟩).run).2 := by
  have hStore := reachable_twoFiles 1
  have hSource : manifestOnly.source.load.Quiet := Source.quiet_fixed _
  have hRender : ∀ a metadata, (manifestOnly.render a metadata).Quiet := fun _ _ => Job.quiet_pure _
  have hFile : (⟨"notes.txt", "mine"⟩ : StoredFile) ∈ (twoFiles 1).store.files := by
    simp [twoFiles]
  exact ⟨hStore, hSource, hRender, hFile,
    synthesize_treats_files manifestOnly _ _ hStore hSource hRender _ hFile⟩

/-- Without an output directory and without leave to replace anything, a file is lost for which
nothing is rendered, as soon as one file cannot be written. -/
theorem synthesize_loses_file :
    (twoFiles 0).store.Reachable ∧ manifestOnly.source.load.Quiet ∧
      (∀ a metadata, (manifestOnly.render a metadata).Quiet) ∧
      (⟨"notes.txt", "mine"⟩ : StoredFile) ∈ (twoFiles 0).store.files ∧
      (⟨"notes.txt", "mine"⟩ : StoredFile) ∉
        ((twoFiles 0).run (manifestOnly.synthesize ⟨"", false, false⟩).run).2.store.files ∧
      ¬ Replaceable ⟨"", false, false⟩ (twoFiles 0) := by
  have hValid : Deployment.siteDocument.validate = .ok Deployment.siteSettings := by
    decide +kernel
  have hForgetful : (twoFiles 0).Forgetful := by
    intro asked c
    simp only [twoFiles, Trial.refuseAfter]
    split <;> rfl
  obtain ⟨-, hStore⟩ := run_synthesize_of_accepted (s := manifestOnly) rfl hValid (fun _ _ => rfl)
    (show ArtifactSet.validate _ = .ok () by decide +kernel) hForgetful "" false
  have hGone :
      ((twoFiles 0).run (manifestOnly.synthesize ⟨"", false, false⟩).run).2.store.files.length =
        0 := by
    rw [hStore]
    decide +kernel
  refine ⟨reachable_twoFiles 0, Source.quiet_fixed _, fun _ _ => Job.quiet_pure _,
    by simp [twoFiles], ?_, fun hReplaceable => by cases hReplaceable.forced⟩
  rw [List.length_eq_zero_iff.mp hGone]
  exact List.not_mem_nil

end Synthesizer

end Blueprint
