import Blueprint.Proofs.Machine.Tree
import Blueprint.Proofs.Synthesis.Preparation

/-! What writing does to the files of a machine, seen from the output directory. Each step either
does what it should or leaves the files as they were, so all that is left to follow is which steps
were made. -/

namespace Blueprint

/-- The content of the last file of a set that belongs at a path, when the set is written below a
directory. -/
def ArtifactSet.contentAt? (set : ArtifactSet) (root path : String) : Option String :=
  (set.artifacts.reverse.find? fun artifact =>
    Path.parts (Path.join root artifact.path.text) = Path.parts path).map Artifact.content

theorem ArtifactSet.contentAt?_cons (first : Artifact) (rest : List Artifact) (root path : String) :
    contentAt? ⟨first :: rest⟩ root path =
      (contentAt? ⟨rest⟩ root path).or
        (if Path.parts (Path.join root first.path.text) = Path.parts path then some first.content
        else none) := by
  rw [contentAt?, contentAt?, List.reverse_cons, List.find?_append, Option.map_or]
  by_cases hFirst : Path.parts (Path.join root first.path.text) = Path.parts path <;> simp [hFirst]

/-- One file below a directory has been written. Nothing outside the directory has changed, and
nothing else is read there. -/
structure Wrote (root path content : String) (before after : Store) : Prop where
  outside : after.outside (Path.parts root) = before.outside (Path.parts root)
  read? : ∀ other, after.read? other =
    if Path.parts path = Path.parts other then some content else before.read? other

theorem Wrote.of_write {root path content : String} {before after : Store}
    (hWrite : before.write path content = .ok after)
    (hPath : Path.parts root <+: Path.parts path) : Wrote root path content before after :=
  ⟨Store.outside_write hWrite hPath, Store.read?_write hWrite⟩

/-- Only the files before writing count. -/
theorem Wrote.congr {root path content : String} {before before' after : Store}
    (h : Wrote root path content before after) (hFiles : before.files = before'.files) :
    Wrote root path content before' after := by
  obtain ⟨files, directories⟩ := before
  obtain rfl : files = before'.files := hFiles
  exact ⟨h.outside, h.read?⟩

namespace Synthesizer

variable {s : Synthesizer} {root : String} {trial : Trial}

theorem ensures_noteStep (level : Trace.Level) (message : String) (fields : List Trace.Field)
    {post : Unit → Trial → Prop} :
    (noteStep level message fields).Ensures post trial ↔
      ∀ event, post () (trial.record (.note event)) :=
  Script.ensures_note _ _ _ _

/-- Whether a failure is that of a change. -/
def IsStoreFailure (e : Failure) : Prop :=
  ∃ path reason, e = .synthesis (.storeFailed path reason)

theorem ensures_perform {c : Change} {ok : Unit → Trial → Prop} {error : Failure → Trial → Prop}
    (hDone : ∀ store, trial.store.apply c = .ok store →
      ok () (({ trial with store } : Trial).record (.change c)))
    (hFault : ∀ fault e, IsStoreFailure e →
      (trial.refusal trial.asked c = some fault ∨ trial.store.apply c = .error fault) →
      error e (trial.record (.change c))) :
    (s.perform c).Ensures ok error trial := by
  rw [perform, Job.ensures_bind, Job.ensures_lift, Script.ensures_change]
  rcases trial.change_cases c with ⟨store, hApply, hChange⟩ | ⟨fault, hCause, hChange⟩
  · rw [hChange]
    exact hDone store hApply
  · rw [hChange]
    exact hFault fault _ ⟨_, _, rfl⟩ hCause

/-- Making a directory changes no file. -/
theorem ensures_makeDirs (s : Synthesizer) (path : String) (trial : Trial) :
    (s.perform (.makeDirs path)).Ensures (fun _ t => t.store.files = trial.store.files)
      (fun e t => IsStoreFailure e ∧ t.store.files = trial.store.files) trial := by
  refine ensures_perform (fun store hApply => ?_) fun fault e hFailure _ => ⟨hFailure, rfl⟩
  obtain rfl := Except.ok.inj hApply
  rfl

/-- One step of writing: the file is written, and no other file has changed. -/
theorem ensures_writeArtifact (hRoot : root ≠ "") (artifact : Artifact) :
    (s.writeArtifact root artifact).Ensures
      (fun _ t =>
        Wrote root (Path.join root artifact.path.text) artifact.content trial.store t.store)
      (fun e t => IsStoreFailure e ∧
        t.store.outside (Path.parts root) = trial.store.outside (Path.parts root)) trial := by
  have hPath := Path.parts_isPrefix_join hRoot artifact.path
  -- Making the directory changes no file, so writing starts from the same files either way.
  have hWrite (t : Trial) (hFiles : t.store.files = trial.store.files) :
      Job.Ensures
        (fun _ t => Wrote root (Path.join root artifact.path.text) artifact.content trial.store
          t.store)
        (fun e t => IsStoreFailure e ∧
          t.store.outside (Path.parts root) = trial.store.outside (Path.parts root))
        (do
          noteStep .debug "Writing artifact" [("path", .bare (Path.join root artifact.path.text))]
          s.perform (.write (Path.join root artifact.path.text) artifact.content)) t := by
    rw [Job.ensures_bind, Job.ensures_lift, ensures_noteStep]
    intro event
    refine ensures_perform (fun store hApply => ?_) fun fault e hFailure _ => ⟨hFailure, ?_⟩
    · have hWrote := Wrote.of_write hApply hPath
      exact hWrote.congr hFiles
    · exact Store.outside_congr hFiles _
  unfold writeArtifact
  dsimp only
  cases Path.directory? (Path.join root artifact.path.text) with
  | none => exact hWrite trial rfl
  | some directory =>
      rw [Job.ensures_bind]
      refine (ensures_makeDirs s directory trial).mono (fun _ t hFiles => hWrite t hFiles)
        fun e t hFailure => ⟨hFailure.1, Store.outside_congr hFailure.2 _⟩

/-- All files of a list are written, the last one at a path counting, or writing fails. The
induction is on the list, from any store. -/
theorem ensures_forM_writeArtifact (hRoot : root ≠ "") (artifacts : List Artifact) :
    Job.Ensures
      (fun _ t => t.store.outside (Path.parts root) = trial.store.outside (Path.parts root) ∧
        ∀ path, t.store.read? path =
          (ArtifactSet.contentAt? ⟨artifacts⟩ root path).or (trial.store.read? path))
      (fun e t => IsStoreFailure e ∧
        t.store.outside (Path.parts root) = trial.store.outside (Path.parts root))
      (artifacts.forM (s.writeArtifact root)) trial := by
  induction artifacts generalizing trial with
  | nil => exact ⟨rfl, fun path => rfl⟩
  | cons artifact rest ih =>
      change Job.Ensures _ _
        (s.writeArtifact root artifact >>= fun _ => rest.forM (s.writeArtifact root)) trial
      rw [Job.ensures_bind]
      refine (ensures_writeArtifact hRoot artifact).mono (fun _ t hWrote => ?_)
        fun e t hFailure => hFailure
      refine ih.mono (fun _ t' hRest => ⟨hRest.1.trans hWrote.outside, fun path => ?_⟩)
        fun e t' hFailure => ⟨hFailure.1, hFailure.2.trans hWrote.outside⟩
      rw [hRest.2, hWrote.read?, ArtifactSet.contentAt?_cons, Option.or_assoc]
      split <;> rfl

/-- All files are written, or writing fails. Either way the output directory has been asked for. -/
theorem ensures_writeAll (hRoot : root ≠ "") (set : ArtifactSet) :
    (s.writeAll root set).Ensures
      (fun _ t => t.store.outside (Path.parts root) = trial.store.outside (Path.parts root) ∧
        ∀ path, t.store.read? path = (set.contentAt? root path).or (trial.store.read? path))
      (fun e t => IsStoreFailure e ∧
        t.store.outside (Path.parts root) = trial.store.outside (Path.parts root) ∧
        .change (.makeDirs root) :: trial.asked <:+ t.asked) trial := by
  rw [writeAll, Job.ensures_bind]
  refine ensures_perform (fun store hApply => ?_) fun _ e hFailure _ =>
    ⟨hFailure, rfl, List.suffix_refl _⟩
  obtain rfl := Except.ok.inj hApply
  refine ((ensures_forM_writeArtifact hRoot set.artifacts).and (Job.ensures_frame _ _)).mono
    (fun _ t h => h.1) fun e t h => ?_
  obtain ⟨⟨hFailure, hOutside⟩, hAsked, -⟩ := h
  exact ⟨hFailure, hOutside, hAsked⟩

theorem ensures_checkReplaceable (root : String) :
    (checkReplaceable root).Ensures (fun _ t => t.store = trial.store)
      (fun _ t => t.store = trial.store) trial := by
  unfold checkReplaceable
  dsimp only
  rw [Job.ensures_bind, Job.ensures_lift, Script.ensures_holdsWorkingDir]
  split
  · rfl
  · rw [Job.ensures_bind, Job.ensures_lift, Script.ensures_pathExists]
    split <;> rfl

/-- Room is made: afterwards nothing is left below the output directory, or else the store is as it
was. -/
theorem ensures_clear (hRoot : root ≠ "") (hStore : trial.store.Reachable) (force : Bool) :
    (s.clear root force).Ensures
      (fun _ t => t.store.under (Path.parts root) = [] ∧
        t.store.outside (Path.parts root) = trial.store.outside (Path.parts root))
      (fun _ t => t.store = trial.store) trial := by
  have hReplace (t : Trial) (hSame : t.store = trial.store) :
      Job.Ensures
        (fun _ t => t.store.under (Path.parts root) = [] ∧
          t.store.outside (Path.parts root) = trial.store.outside (Path.parts root))
        (fun _ t => t.store = trial.store)
        (do
          checkReplaceable root
          noteStep .warn "Replacing existing output directory" [("path", .bare root)]
          s.perform (.removeTree root)) t := by
    rw [Job.ensures_bind]
    refine (ensures_checkReplaceable root).mono (fun _ t' hChecked => ?_) fun _ t' hRefused =>
      hRefused.trans hSame
    rw [Job.ensures_bind, Job.ensures_lift, ensures_noteStep]
    intro event
    refine ensures_perform (fun store hApply => ?_) fun _ _ _ _ => hChecked.trans hSame
    obtain rfl := Except.ok.inj hApply
    refine ⟨Store.under_removeTree _ root, ?_⟩
    rw [Trial.record_store, Store.outside_removeTree, Trial.record_store, hChecked, hSame]
  unfold clear
  rw [Job.ensures_bind, Job.ensures_lift, Script.ensures_pathExists]
  cases hThere : trial.store.contains root with
  | false => exact ⟨hStore.wellPlaced.under_eq_nil hRoot hThere, rfl⟩
  | true =>
      cases force with
      | false => rfl
      | true => exact hReplace _ rfl

/-- What is below the output directory is removed, unless its removal fails. -/
theorem ensures_rollback (s : Synthesizer) (root : String) (trial : Trial) :
    (s.rollback root).Ensures
      (fun _ t => t.store.outside (Path.parts root) = trial.store.outside (Path.parts root) ∧
        (t.store.under (Path.parts root) = [] ∨
          .change (.removeTree root) :: trial.asked <:+ t.asked ∧
            (trial.refusal trial.asked (.removeTree root)).isSome)) trial := by
  have hRemoval : (s.perform (.removeTree root)).Ensures
      (fun _ t => t.store.under (Path.parts root) = [] ∧
        t.store.outside (Path.parts root) = trial.store.outside (Path.parts root))
      (fun _ t => t.store = trial.store ∧ t.asked = .change (.removeTree root) :: trial.asked ∧
        (trial.refusal trial.asked (.removeTree root)).isSome) trial := by
    refine ensures_perform (fun store hApply => ?_) fun fault _ _ hCause => ⟨rfl, rfl, ?_⟩
    · obtain rfl := Except.ok.inj hApply
      exact ⟨Store.under_removeTree _ root, Store.outside_removeTree _ root⟩
    · rcases hCause with hRefusal | hApply
      · rw [hRefusal]
        rfl
      · cases hApply
  rw [rollback, Script.ensures_bind]
  refine Script.Ensures.mono hRemoval fun result t h => ?_
  cases result with
  | ok _ =>
      obtain ⟨hUnder, hOutside⟩ := h
      exact (ensures_noteStep _ _ _).mpr fun _ => ⟨hOutside, .inl hUnder⟩
  | error e =>
      obtain ⟨hStore, hAsked, hRefusal⟩ := h
      refine (ensures_noteStep _ _ _).mpr fun event => ⟨?_, .inr ⟨?_, hRefusal⟩⟩
      · rw [Trial.record_store, hStore]
      · rw [Trial.record_asked, hAsked]
        exact List.suffix_cons _ _

/-- The removal that takes back what has been written was asked for and failed: first room was
made, then the output directory, and only then its removal was asked for. -/
def RollbackFailed (root : String) (before after : Trial) : Prop :=
  ∃ cleared asked, before.asked <:+ cleared ∧ .change (.makeDirs root) :: cleared <:+ asked ∧
    .change (.removeTree root) :: asked <:+ after.asked ∧
    (before.refusal asked (.removeTree root)).isSome

/-- Below a directory there are exactly the files of a set, and nothing has changed elsewhere. -/
structure Holds (set : ArtifactSet) (root : String) (before after : Store) : Prop where
  outside : after.outside (Path.parts root) = before.outside (Path.parts root)
  read? : ∀ path, Path.parts root <+: Path.parts path →
    after.read? path = set.contentAt? root path

/-- Below a directory there is what was there before or nothing, unless taking back what was written
has failed, and nothing has changed elsewhere. -/
structure Spares (root : String) (before after : Trial) : Prop where
  outside : after.store.outside (Path.parts root) = before.store.outside (Path.parts root)
  under : after.store.under (Path.parts root) = before.store.under (Path.parts root) ∨
    after.store.under (Path.parts root) = [] ∨ RollbackFailed root before after

theorem Spares.of_eq {root : String} {before after : Trial} (h : after.store = before.store) :
    Spares root before after :=
  ⟨by rw [h], .inl (by rw [h])⟩

/-- What came before counts only for its files, its record and what fails. -/
theorem Spares.of_suffix {root : String} {before between after : Trial}
    (h : Spares root between after) (hStore : between.store = before.store)
    (hAsked : before.asked <:+ between.asked) (hRefusal : between.refusal = before.refusal) :
    Spares root before after := by
  refine ⟨hStore ▸ h.outside, hStore ▸ h.under.imp_right (Or.imp_right fun hFailed => ?_)⟩
  obtain ⟨cleared, asked, hCleared, hMade, hRemoval, hFault⟩ := hFailed
  exact ⟨cleared, asked, hAsked.trans hCleared, hMade, hRemoval, hRefusal ▸ hFault⟩

/-- All files or none. A failure that is not the failure of a change leaves the store as it was. -/
theorem ensures_writeArtifacts (hRoot : root ≠ "") (hStore : trial.store.Reachable)
    (set : ArtifactSet) (force : Bool) :
    (s.writeArtifacts root set force).Ensures
      (fun _ t => Holds set root trial.store t.store)
      (fun e t => (t.store = trial.store ∨ IsStoreFailure e) ∧ Spares root trial t) trial := by
  rw [writeArtifacts, Job.ensures_bind]
  refine ((ensures_clear hRoot hStore force).and (Job.ensures_frame _ _)).mono
    (fun _ cleared hCleared => ?_) fun e t h => ⟨.inl h.1, .of_eq h.1⟩
  obtain ⟨⟨hUnder, hOutside⟩, hClearedAsked, hClearedRefusal⟩ := hCleared
  rw [Job.ensures_bind, Job.ensures_attempt]
  refine ((ensures_writeAll hRoot set).and (Job.ensures_frame _ _)).mono
    (fun _ written hWritten => ?_) fun e failed hFailed => ?_
  · obtain ⟨⟨hKept, hRead⟩, -⟩ := hWritten
    rw [Job.ensures_lift, ensures_noteStep]
    refine fun event => ⟨hKept.trans hOutside, fun path hPath => ?_⟩
    rw [Trial.record_store, hRead, Store.read?_eq_none_of_under_eq_nil hUnder hPath,
      Option.or_none]
  · obtain ⟨⟨hFailure, hKept, hMade⟩, -, hFailedRefusal⟩ := hFailed
    rw [Job.ensures_bind, Job.ensures_lift, ensures_noteStep]
    intro event
    rw [Job.ensures_bind, Job.ensures_lift]
    refine (ensures_rollback s root _).mono fun _ t hRollback => ?_
    obtain ⟨hOutside', hRemoved⟩ := hRollback
    refine ⟨.inr hFailure, hOutside'.trans (hKept.trans hOutside), .inr ?_⟩
    refine hRemoved.imp_right fun h => ?_
    obtain ⟨hAsked, hRefusal⟩ := h
    rw [Trial.record_refusal, hFailedRefusal, hClearedRefusal] at hRefusal
    exact ⟨_, _, hClearedAsked, hMade.trans (List.suffix_cons _ _), hAsked, hRefusal⟩

end Synthesizer

end Blueprint
