import Blueprint.Proofs.Machine.Ensures
import Blueprint.Proofs.Machine.Store

/-! The tree of a store in memory. Its files and its directories are changed apart from each other;
what ties them together is that everything stands in a directory that is there. This stays so
whatever is asked of a machine: directories are made with those above them, a file is written only
where its directory is, and with a directory goes all that begins with its parts. -/

namespace Blueprint

open Blueprint.Path

/-- A script changes a store only into another one that changes lead to. -/
theorem Script.ensures_reachable {α : Type} (s : Script α) {trial : Trial}
    (h : trial.store.Reachable) : s.Ensures (fun _ t => t.store.Reachable) trial := by
  induction s generalizing trial with
  | done a => exact h
  | ask question next ih =>
      refine fun asked _ => ih _ ?_
      cases question with
      | change c =>
          rw [Trial.record_store, Trial.answer]
          rcases trial.change_cases c with ⟨store, hApply, hChange⟩ | ⟨fault, -, hChange⟩
          · simpa only [hChange] using h.change c hApply
          · simpa only [hChange] using h
      | _ => exact h

namespace Store

/-- Whatever is at a place stands in a directory that is there. The root and what has one part only
stand in none. -/
def Supports (s : Store) (place : List Part) : Prop :=
  ∀ directory, parent? place = some directory → directory ≠ [] → directory ∈ s.directories

/-- All files and directories stand in directories that are there. -/
structure IsTree (s : Store) : Prop where
  files : ∀ file ∈ s.files, s.Supports file.parts
  directories : ∀ directory ∈ s.directories, s.Supports directory

/-- A directory has been made, with all directories above it. -/
structure MadeDirs (path : String) (before after : Store) : Prop where
  files : after.files = before.files
  directories : ∀ place, place ∈ after.directories ↔
    place ∈ before.directories ∨ place ≠ [] ∧ place <+: parts path
  /-- Whatever leads to the directory is there, in any spelling. -/
  contains : ∀ other, other ≠ "" → parts other <+: parts path → after.contains other = true

/-- A file has been written. -/
structure WroteFile (path content : String) (before after : Store) : Prop where
  directories : after.directories = before.directories
  others : ∀ file, file.parts ≠ parts path → (file ∈ after.files ↔ file ∈ before.files)
  read? : ∀ other, after.read? other =
    if parts path = parts other then some content else before.read? other

/-- What was at a path or below it has gone, and nothing else. -/
structure RemovedTree (path : String) (before after : Store) : Prop where
  files : ∀ file, file ∈ after.files ↔ file ∈ before.files ∧ ¬ parts path <+: file.parts
  directories : ∀ place, place ∈ after.directories ↔
    place ∈ before.directories ∧ ¬ parts path <+: place
  contains : ∀ other, after.contains other = true ↔
    before.contains other = true ∧ ¬ parts path <+: parts other
  read? : ∀ other, after.read? other =
    if parts path <+: parts other then none else before.read? other

variable {s s' : Store} {path content : String} {place : List Part}

theorem hasPlaceFor_iff : s.hasPlaceFor place = true ↔ s.Supports place := by
  unfold hasPlaceFor Supports
  split
  next hNone => simp [hNone]
  next hEmpty => simp [hEmpty]
  next directory hSome hParent =>
    rw [List.contains_iff_mem]
    constructor
    · intro hThere other hOther _
      obtain rfl := Option.some.inj (hParent.symm.trans hOther)
      exact hThere
    · exact fun hThere => hThere directory hParent hSome

theorem WellPlaced.isTree (h : s.WellPlaced) : s.IsTree where
  files file hFile directory hParent hSome := by
    obtain ⟨part, -, hParts⟩ := parent?_eq_some_iff.mp hParent
    exact h.directory directory part (List.mem_map.mpr ⟨file, hFile, hParts⟩) hSome
  directories place hThere directory hParent hSome := by
    obtain ⟨part, -, rfl⟩ := parent?_eq_some_iff.mp hParent
    exact h.above _ hThere directory hSome (List.prefix_append _ _)

theorem contains_iff {other : String} :
    s.contains other = true ↔
      (∃ file ∈ s.files, file.parts = parts other) ∨ parts other ∈ s.directories := by
  rw [contains, Bool.or_eq_true, List.contains_iff_mem, file?, List.find?_isSome]
  simp only [decide_eq_true_eq]

theorem madeDirs_makeDirs (s : Store) (path : String) : MadeDirs path s (s.makeDirs path) where
  files := rfl
  directories _ := mem_directories_makeDirs
  contains other hOther hAbove := by
    refine contains_iff.mpr (.inr (mem_directories_makeDirs.mpr (.inr ?_)))
    exact ⟨parts_ne_nil hOther, hAbove⟩

theorem wroteFile_of_write (hWrite : s.write path content = .ok s') :
    WroteFile path content s s' where
  directories := by
    obtain ⟨-, rfl⟩ := write_eq_ok_iff.mp hWrite
    rfl
  others file hFile := by
    obtain ⟨-, rfl⟩ := write_eq_ok_iff.mp hWrite
    have hOthers : ((put path content s.files).filter fun other =>
          decide (other.parts ≠ parts path)) =
        s.files.filter fun other => decide (other.parts ≠ parts path) :=
      filter_put (fun place => decide (place ≠ parts path)) (by simp) s.files
    have hMem : ∀ files : List StoredFile,
        file ∈ files.filter (fun other => decide (other.parts ≠ parts path)) ↔ file ∈ files :=
      fun files => by rw [List.mem_filter, decide_eq_true_eq, and_iff_left hFile]
    rw [← hMem, hOthers, hMem]
  read? := read?_write hWrite

/-- What is not below the removed path is read as before. -/
theorem read?_removeTree {other : String} (hOutside : ¬ parts path <+: parts other) :
    (s.removeTree path).read? other = s.read? other := by
  have hKept : (parts path).isPrefixOf (parts other) = false := by
    rwa [← Bool.not_eq_true, List.isPrefixOf_iff_prefix]
  rw [read?, read?, file?, file?, removeTree, List.find?_filter]
  congr 2
  funext file
  by_cases hFile : file.parts = parts other
  · simp [hFile, hKept]
  · simp [hFile]

theorem removedTree_removeTree (s : Store) (path : String) :
    RemovedTree path s (s.removeTree path) := by
  have hKept : ∀ place : List Part,
      (!(parts path).isPrefixOf place) = true ↔ ¬ parts path <+: place := by
    intro place
    rw [Bool.not_eq_true', ← Bool.not_eq_true, List.isPrefixOf_iff_prefix]
  have hFiles : ∀ file, file ∈ (s.removeTree path).files ↔
      file ∈ s.files ∧ ¬ parts path <+: file.parts := by
    intro file
    rw [removeTree, List.mem_filter, hKept]
  have hDirectories : ∀ place, place ∈ (s.removeTree path).directories ↔
      place ∈ s.directories ∧ ¬ parts path <+: place := by
    intro place
    rw [removeTree, List.mem_filter, hKept]
  refine ⟨hFiles, hDirectories, fun other => ?_, fun other => ?_⟩
  · simp only [contains_iff, hFiles, hDirectories]
    constructor
    · rintro (⟨file, ⟨hFile, hBelow⟩, hSame⟩ | ⟨hThere, hBelow⟩)
      · exact ⟨.inl ⟨file, hFile, hSame⟩, hSame ▸ hBelow⟩
      · exact ⟨.inr hThere, hBelow⟩
    · rintro ⟨⟨file, hFile, hSame⟩ | hThere, hBelow⟩
      · exact .inl ⟨file, ⟨hFile, hSame ▸ hBelow⟩, hSame⟩
      · exact .inr ⟨hThere, hBelow⟩
  · split
    next hBelow => exact read?_eq_none_of_under_eq_nil (under_removeTree s path) hBelow
    next hOutside => exact read?_removeTree hOutside

end Store

namespace Trial

/-- A machine whose files are a tree and that takes changes as it should. -/
structure KeepsTree (machine : Trial) : Prop where
  tree : machine.store.IsTree
  makes : ∀ path, ∃ store, machine.change (.makeDirs path) = (.ok (), { machine with store }) ∧
    Store.MadeDirs path machine.store store
  /-- A file can be written where its directory is, or where it needs none. -/
  writes : ∀ path content, machine.store.Supports (parts path) →
    ∃ store, machine.change (.write path content) = (.ok (), { machine with store }) ∧
      Store.WroteFile path content machine.store store
  /-- Anywhere else writing fails and leaves everything as it was. -/
  refuses : ∀ path content, ¬ machine.store.Supports (parts path) →
    machine.change (.write path content) =
      (.error (.other "Parent directory does not exist"), machine)
  removes : ∀ path, ∃ store, machine.change (.removeTree path) = (.ok (), { machine with store }) ∧
    Store.RemovedTree path machine.store store

variable {trial : Trial}

theorem change_eq_ok {c : Change} {store : Store} (hRefusal : trial.refusal trial.asked c = none)
    (hApply : trial.store.apply c = .ok store) :
    trial.change c = (.ok (), { trial with store }) := by
  rw [change, hRefusal, hApply]

theorem change_eq_error {c : Change} {fault : Fault}
    (hRefusal : trial.refusal trial.asked c = none)
    (hApply : trial.store.apply c = .error fault) : trial.change c = (.error fault, trial) := by
  rw [change, hRefusal, hApply]

theorem KeepsTree.of_isTree (hTree : trial.store.IsTree)
    (hRefusal : ∀ c, trial.refusal trial.asked c = none) : trial.KeepsTree where
  tree := hTree
  makes path := ⟨_, change_eq_ok (hRefusal _) rfl, Store.madeDirs_makeDirs trial.store path⟩
  writes path content hPlace := by
    have hWrite : trial.store.write path content = .ok _ :=
      Store.write_eq_ok_iff.mpr ⟨Store.hasPlaceFor_iff.mpr hPlace, rfl⟩
    exact ⟨_, change_eq_ok (hRefusal _) hWrite, Store.wroteFile_of_write hWrite⟩
  refuses path content hPlace := by
    have hWrite : trial.store.write path content =
        .error (.other "Parent directory does not exist") :=
      if_neg (mt Store.hasPlaceFor_iff.mp hPlace)
    exact change_eq_error (hRefusal _) hWrite
  removes path :=
    ⟨_, change_eq_ok (hRefusal _) rfl, Store.removedTree_removeTree trial.store path⟩

/-- Whatever a script has asked of a machine that was without files, such as any sequence of
changes, the files are a tree after it, and the machine goes on making, writing and removing as it
should. -/
theorem keepsTree_run {α : Type} (script : Script α) (trial : Trial)
    (hEmpty : trial.store = .empty) (hOpen : ∀ asked c, trial.refusal asked c = none) :
    (trial.run script).2.KeepsTree := by
  have hStore : trial.store.Reachable := hEmpty ▸ .empty
  have hReachable := (script.ensures_reachable hStore).run
  obtain ⟨-, hRefusal⟩ := (script.ensures_frame trial).run
  exact .of_isTree hReachable.wellPlaced.isTree fun c => by rw [hRefusal, hOpen]

/-- A machine without files that lets every change through. -/
def blank : Trial where
  store := .empty
  asked := []
  refusal _ _ := none
  holdsWorkingDir _ := false
  identifier := "id"
  time := "now"

/-- Directories in several spellings, a file in one of them, one in none and one where its directory
is missing. In the end one of the directories is removed again. -/
def errand : Script Unit := do
  let _ ← Script.change (.makeDirs "./out//site/.")
  let _ ← Script.change (.makeDirs "/out/../lib")
  let _ ← Script.change (.write "./out/site/a.json" "a")
  let _ ← Script.change (.write "b.json" "b")
  let _ ← Script.change (.write "lost/c.json" "c")
  let _ ← Script.change (.removeTree "./out/site/")

theorem keepsTree_run_errand :
    blank.store = .empty ∧ (∀ asked c, blank.refusal asked c = none) ∧
      (blank.run errand).2.KeepsTree ∧
      ((blank.run errand).2.store.contains "./out" = true ∧
        (blank.run errand).2.store.contains "/out/.." = true ∧
        (blank.run errand).2.store.contains "./out/site" = false) ∧
      (blank.run errand).2.store.files.map StoredFile.path = ["b.json"] ∧
      (blank.run errand).2.change (.write "lost/c.json" "c") =
        (.error (.other "Parent directory does not exist"), (blank.run errand).2) := by
  have hOpen : ∀ asked c, blank.refusal asked c = none := fun _ _ => rfl
  have hKeeps := keepsTree_run errand blank rfl hOpen
  refine ⟨rfl, hOpen, hKeeps, by decide +kernel, by decide +kernel, hKeeps.refuses _ _ ?_⟩
  rw [← Store.hasPlaceFor_iff]
  decide +kernel

end Trial

end Blueprint
