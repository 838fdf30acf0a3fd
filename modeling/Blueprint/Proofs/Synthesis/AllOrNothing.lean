import Blueprint.Proofs.Synthesis.Writing

/-! A synthesis leaves no partial assembly behind, whichever of its changes fail. -/

namespace Blueprint.Synthesizer

variable {s : Synthesizer} {request : SynthesisRequest} {before after trial : Trial}

/-- Preparing has one result, whatever is on record, and changes no file. -/
theorem ensures_prepare (hSource : s.source.load.Quiet)
    (hRender : ∀ a metadata, (s.render a metadata).Quiet) (trial : Trial) :
    s.prepare.Ensures
      (fun rendered t => (trial.run s.prepare.run).1 = .ok rendered ∧ t.store = trial.store)
      (fun e t => (trial.run s.prepare.run).1 = .error e ∧ t.store = trial.store) trial := by
  refine ((quiet_prepare hSource hRender).ensures_run trial).mono fun result t h => ?_
  obtain ⟨hResult, asked, rfl⟩ := h
  cases result with
  | ok rendered | error e => exact ⟨hResult.symm, rfl⟩

theorem ensures_finish (hOut : request.outDir ≠ "") (hStore : trial.store.Reachable)
    (rendered : Rendered) :
    (s.finish request rendered).Ensures
      (fun report t => report.written = !request.dryRun ∧
        if request.dryRun then t.store = trial.store
        else Holds rendered.artifacts request.outDir trial.store t.store)
      (fun e t => request.dryRun = false ∧ (t.store = trial.store ∨ IsStoreFailure e) ∧
        Spares request.outDir trial t) trial := by
  rw [finish, Job.ensures_bind, Job.ensures_lift, ensures_noteStep]
  intro event
  cases hDry : request.dryRun with
  | true =>
      simp only [if_true]
      rw [Job.ensures_bind, Job.ensures_lift, ensures_noteStep]
      exact fun other => ⟨by rw [report, hDry], rfl⟩
  | false =>
      simp only [Bool.false_eq_true, if_false]
      rw [Job.ensures_bind]
      have hRecorded : (trial.record (.note event)).store.Reachable := hStore
      refine (ensures_writeArtifacts hOut hRecorded _ _).mono
        (fun _ t hHolds => ⟨by rw [report, hDry], hHolds⟩) fun e t h => ?_
      obtain ⟨hCause, hSpares⟩ := h
      exact ⟨trivial, hCause, hSpares.of_suffix rfl (List.suffix_cons _ _) rfl⟩

/-- Whatever changes fail: a synthesis that succeeds has prepared, and it has written unless it was
a dry run. One that fails has left the store as it was, or else a change has failed after it had
prepared. -/
theorem ensures_synthesize (request : SynthesisRequest) (hStore : trial.store.Reachable)
    (hOut : request.outDir ≠ "") (hSource : s.source.load.Quiet)
    (hRender : ∀ a metadata, (s.render a metadata).Quiet) :
    (s.synthesize request).Ensures
      (fun report t => report.written = !request.dryRun ∧
        ∃ rendered, (trial.run s.prepare.run).1 = .ok rendered ∧
          if request.dryRun then t.store = trial.store
          else Holds rendered.artifacts request.outDir trial.store t.store)
      (fun e t => t.store = trial.store ∨ IsStoreFailure e ∧ request.dryRun = false ∧
        (∃ rendered, (trial.run s.prepare.run).1 = .ok rendered) ∧
        Spares request.outDir trial t) trial := by
  obtain ⟨span, hSynthesize⟩ := synthesize_eq s request
  rw [hSynthesize]
  refine Job.Ensures.within ?_ span
  rw [Job.ensures_bind]
  refine ((ensures_prepare hSource hRender trial).and (Job.ensures_frame _ _)).mono
    (fun rendered prepared h => ?_) fun e t h => .inl h.1.2
  obtain ⟨⟨hRendered, hSame⟩, hAsked, hRefusal⟩ := h
  have hPrepared : prepared.store.Reachable := hSame ▸ hStore
  refine (ensures_finish hOut hPrepared rendered).mono (fun report t h => ?_) fun e t h => ?_
  · exact ⟨h.1, rendered, hRendered, hSame ▸ h.2⟩
  · obtain ⟨hDry, hCause, hSpares⟩ := h
    rcases hCause with hUnchanged | hFailure
    · exact .inl (hUnchanged.trans hSame)
    · exact .inr
        ⟨hFailure, hDry, ⟨rendered, hRendered⟩, hSpares.of_suffix hSame hAsked hRefusal⟩

/-- What a synthesis from an accepted document comes to is decided by writing its files. -/
theorem run_synthesize_of_accepted {d : Document} {settings : Settings} {set : ArtifactSet}
    (hSource : s.source = .fixed d) (h : d.validate = .ok settings)
    (hRender : ∀ a metadata, s.render a metadata = pure set) (hSet : set.validate = .ok ())
    (hForgetful : trial.Forgetful) (root : String) (force : Bool) :
    (trial.run (s.synthesize ⟨root, force, false⟩).run).1.map SynthesisReport.written =
        (trial.run (s.writeArtifacts root set force).run).1.map (fun _ => true) ∧
      (trial.run (s.synthesize ⟨root, force, false⟩).run).2.store =
        (trial.run (s.writeArtifacts root set force).run).2.store := by
  have hWrites (asked : List Ask) := Script.ensures_run_of_forgetful
    (s.writeArtifacts root set force).run hForgetful asked
  generalize trial.run (s.writeArtifacts root set force).run = written at hWrites
  obtain ⟨span, hSynthesize⟩ := synthesize_eq s ⟨root, force, false⟩
  refine Job.Ensures.run (P := fun result t =>
    result.map SynthesisReport.written = written.1.map (fun _ => true) ∧
      t.store = written.2.store) ?_
  rw [hSynthesize]
  refine Job.Ensures.within ?_ span
  rw [Job.ensures_bind]
  refine (ensures_prepare_of_accepted hSource h hRender hSet trial).mono
    (fun rendered t hRendered => ?_) fun _ _ => False.elim
  obtain ⟨hArtifacts, asked, rfl⟩ := hRendered
  rw [finish, hArtifacts, Job.ensures_bind, Job.ensures_lift, ensures_noteStep]
  intro event
  simp only [Bool.false_eq_true, if_false]
  rw [Job.ensures_bind]
  refine (hWrites (.note event :: asked)).mono fun result t hResult => ?_
  obtain ⟨rfl, hStore⟩ := hResult
  split
  next hOk => exact ⟨by rw [hOk]; rfl, hStore⟩
  next hError => exact ⟨by rw [hError]; rfl, hStore⟩

/-- What holds after a synthesis, given what was there before. Of the failures of changes nothing is
assumed. -/
structure AllOrNothing (s : Synthesizer) (request : SynthesisRequest) (before : Trial)
    (result : Except Failure SynthesisReport) (after : Trial) : Prop where
  /-- If files were written, then below the output directory there are exactly the rendered ones,
  each once and with its last content, and nothing has changed elsewhere. -/
  written : ∀ report, result = .ok report → report.written = true →
    (after.store.files.map StoredFile.parts).Nodup ∧
      ∃ rendered, (before.run s.prepare.run).1 = .ok rendered ∧
        Holds rendered.artifacts request.outDir before.store after.store
  /-- A dry run changes nothing. -/
  dryRun : request.dryRun = true → after.store = before.store
  /-- If loading, putting together, rendering or checking fails, nothing has changed. -/
  unprepared : ∀ e, (before.run s.prepare.run).1 = .error e → after.store = before.store
  /-- Refusing to write changes nothing. -/
  refused : ∀ path, result = .error (.synthesis (.outputExists path)) ∨
      (∃ reason, result = .error (.synthesis (.replaceRefused path reason))) →
    after.store = before.store
  /-- After any failure nothing has changed elsewhere, and below the output directory there is what
  was there before or nothing, unless taking back what was written has failed. -/
  failed : ∀ e, result = .error e → Spares request.outDir before after

/-- A synthesis writes all or nothing, whatever changes fail and whatever there was before. The
source and the renderer are any that change no files themselves. -/
theorem synthesize_allOrNothing (s : Synthesizer) (request : SynthesisRequest) (trial : Trial)
    (hStore : trial.store.Reachable) (hOut : request.outDir ≠ "")
    (hSource : s.source.load.Quiet) (hRender : ∀ a metadata, (s.render a metadata).Quiet) :
    AllOrNothing s request trial (trial.run (s.synthesize request).run).1
      (trial.run (s.synthesize request).run).2 := by
  have hRun := Script.Ensures.run (ensures_synthesize request hStore hOut hSource hRender)
  have hReachable := (Script.ensures_reachable (s.synthesize request).run hStore).run
  generalize trial.run (s.synthesize request).run = outcome at hRun hReachable ⊢
  obtain ⟨result, after⟩ := outcome
  cases result with
  | ok report =>
      obtain ⟨hWritten, rendered, hRendered, hAfter⟩ := hRun
      refine ⟨?_, ?_, ?_, ?_, ?_⟩
      · rintro _ ⟨⟩ hTrue
        have hDry : request.dryRun = false := by simpa [hWritten] using hTrue
        rw [hDry] at hAfter
        exact ⟨hReachable.wellPlaced.files, rendered, hRendered, hAfter⟩
      · intro hDry
        simpa [hDry] using hAfter
      · intro e hError
        rw [hRendered] at hError
        cases hError
      · rintro path (hError | ⟨reason, hError⟩) <;> cases hError
      · intro e hError
        cases hError
  | error e =>
      rcases hRun with hSame | ⟨⟨_, _, rfl⟩, hDry, ⟨rendered, hRendered⟩, hSpares⟩
      · refine ⟨?_, fun _ => hSame, fun _ _ => hSame, fun _ _ => hSame, fun _ _ => .of_eq hSame⟩
        rintro report ⟨⟩
      · refine ⟨?_, ?_, ?_, ?_, fun _ _ => hSpares⟩
        · rintro report ⟨⟩
        · intro hDryRun
          rw [hDry] at hDryRun
          cases hDryRun
        · intro e hError
          rw [hRendered] at hError
          cases hError
        · rintro path (hError | ⟨reason, hError⟩) <;> cases hError

/-- Two files of the same name, one of them further down. -/
def twoPlaces : ArtifactSet :=
  ⟨[⟨⟨"./manifest.json", by decide⟩, "new"⟩, ⟨⟨"parts//manifest.json", by decide⟩, "part"⟩]⟩

/-- The change that writes the second one below the output directory. -/
def lastWrite : Change := .write "out/parts//manifest.json" "part"

/-- A synthesizer that renders two files for a site, whatever is put together for it. -/
def brief : Synthesizer where
  source := .fixed Deployment.siteDocument
  render _ _ := pure twoPlaces
  reason _ fault := fault.text

/-- A machine with an older assembly in its output directory and a file next to it, on which some
changes fail. -/
def occupied (failing : List Change) : Trial :=
  { Trial.blank with
    store :=
      ⟨[⟨"notes.txt", "mine"⟩, ⟨"out/manifest.json", "old"⟩, ⟨"out/Old.json", "old"⟩],
        [[.name "out"]]⟩
    refusal := fun _ c => if c ∈ failing then some (.other "no space left") else none }

theorem reachable_occupied (failing : List Change) : (occupied failing).store.Reachable :=
  (((Store.Reachable.empty.change (.makeDirs "out") rfl).change
    (.write "notes.txt" "mine") rfl).change
      (.write "out/manifest.json" "old") rfl).change (.write "out/Old.json" "old") rfl

/-- The run of a synthesis for the site on such a machine. -/
def replacing (failing : List Change) (force : Bool) : Except Failure SynthesisReport × Trial :=
  (occupied failing).run (brief.synthesize ⟨"out", force, false⟩).run

/-- Whether files have been written or why not, and what lies where then. -/
def outcome {α : Type} (written : α → Bool) (ended : Except Failure α × Trial) :
    Except Failure Bool × List (String × String) :=
  (ended.1.map written, ended.2.store.files.map fun file => (file.path, file.content))

/-- The site is accepted, so that the synthesis gets as far as to writing. -/
theorem outcome_replacing (failing : List Change) (force : Bool) :
    outcome SynthesisReport.written (replacing failing force) =
      outcome (fun _ => true)
        ((occupied failing).run (brief.writeArtifacts "out" twoPlaces force).run) := by
  have hValid : Deployment.siteDocument.validate = .ok Deployment.siteSettings := by
    decide +kernel
  have hSet : twoPlaces.validate = .ok () := by decide +kernel
  have hForgetful : (occupied failing).Forgetful := fun _ _ => rfl
  obtain ⟨hResult, hStore⟩ := run_synthesize_of_accepted (s := brief) rfl hValid
    (fun _ _ => rfl) hSet hForgetful "out" force
  rw [outcome, outcome, replacing, hResult, hStore]

/-- The older assembly is replaced if it may be. If a file cannot be written after that, then what
was written by then is taken back and the older assembly is gone. If it may not be replaced, nothing
changes. The file next to it is there in all cases. -/
theorem synthesize_allOrNothing_occupied :
    ((∀ failing, (occupied failing).store.Reachable) ∧ "out" ≠ "" ∧ brief.source.load.Quiet ∧
      ∀ a metadata, (brief.render a metadata).Quiet) ∧
    (AllOrNothing brief ⟨"out", true, false⟩ (occupied [])
        (replacing [] true).1 (replacing [] true).2 ∧
      outcome SynthesisReport.written (replacing [] true) =
        (.ok true, [("notes.txt", "mine"), ("out/./manifest.json", "new"),
          ("out/parts//manifest.json", "part")])) ∧
    (AllOrNothing brief ⟨"out", true, false⟩ (occupied [lastWrite])
        (replacing [lastWrite] true).1 (replacing [lastWrite] true).2 ∧
      outcome SynthesisReport.written (replacing [lastWrite] true) =
        (.error (.synthesis (.storeFailed "out/parts//manifest.json" "no space left")),
          [("notes.txt", "mine")])) ∧
    (AllOrNothing brief ⟨"out", false, false⟩ (occupied [])
        (replacing [] false).1 (replacing [] false).2 ∧
      outcome SynthesisReport.written (replacing [] false) =
        (.error (.synthesis (.outputExists "out")),
          [("notes.txt", "mine"), ("out/manifest.json", "old"), ("out/Old.json", "old")])) := by
  have hOut : "out" ≠ "" := by decide
  have hSource : brief.source.load.Quiet := Source.quiet_fixed _
  have hRender : ∀ a metadata, (brief.render a metadata).Quiet := fun _ _ => Job.quiet_pure _
  have hKept (failing : List Change) (force : Bool) :
      AllOrNothing brief ⟨"out", force, false⟩ (occupied failing) (replacing failing force).1
        (replacing failing force).2 :=
    synthesize_allOrNothing brief ⟨"out", force, false⟩ (occupied failing)
      (reachable_occupied failing) hOut hSource hRender
  refine ⟨⟨reachable_occupied, hOut, hSource, hRender⟩, ⟨hKept [] true, ?_⟩,
    ⟨hKept [lastWrite] true, ?_⟩, hKept [] false, ?_⟩
  all_goals
    rw [outcome_replacing]
    decide +kernel

end Blueprint.Synthesizer
