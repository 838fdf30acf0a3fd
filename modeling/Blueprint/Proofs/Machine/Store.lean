import Blueprint.Machine.Store
import Blueprint.Proofs.Path.Directory
import Mathlib.Data.List.Nodup

/-! Stores as they come about by changes, seen from one directory. No file stands twice, and what a
file or directory stands in is there, so nothing stands below a directory that is not there. -/

namespace Blueprint

open Blueprint.Path

theorem mem_beginnings_iff {α : Type} {beginning parts : List α} :
    beginning ∈ beginnings parts ↔ beginning ≠ [] ∧ beginning <+: parts := by
  induction parts generalizing beginning with
  | nil => simp [beginnings, List.prefix_nil]
  | cons part rest ih =>
      cases beginning with
      | nil => simp [beginnings]
      | cons first others =>
          simp only [beginnings, List.mem_cons, List.cons.injEq, List.mem_map, ih, ne_eq,
            List.cons_prefix_cons, reduceCtorEq, not_false_eq_true, true_and]
          constructor
          · rintro (⟨rfl, rfl⟩ | ⟨tail, ⟨hTail, hPrefix⟩, rfl, rfl⟩)
            · exact ⟨rfl, List.nil_prefix⟩
            · exact ⟨rfl, hPrefix⟩
          · rintro ⟨rfl, hPrefix⟩
            by_cases hOthers : others = []
            · exact .inl ⟨rfl, hOthers⟩
            · exact .inr ⟨others, ⟨hOthers, hPrefix⟩, rfl, rfl⟩

namespace Store

/-- The stores that changes lead to, starting from the empty one. A change that fails leads nowhere
new. -/
inductive Reachable : Store → Prop where
  | empty : Reachable empty
  | change {s s' : Store} (h : Reachable s) (c : Change) (hApply : s.apply c = .ok s') :
      Reachable s'

/-- What holds of every store that changes lead to. -/
structure WellPlaced (s : Store) : Prop where
  /-- No file stands twice. -/
  files : (s.files.map StoredFile.parts).Nodup
  /-- The directory of a file is there. -/
  directory : ∀ directory part, directory ++ [part] ∈ s.files.map StoredFile.parts →
    directory ≠ [] → directory ∈ s.directories
  /-- Whatever a directory stands in is there. -/
  above : ∀ directory ∈ s.directories, ∀ above, above ≠ [] → above <+: directory →
    above ∈ s.directories

/-- The files at or below a path. -/
def under (root : List Part) (s : Store) : List StoredFile :=
  s.files.filter fun file => root.isPrefixOf file.parts

/-- The files that are neither at a path nor below it. -/
def outside (root : List Part) (s : Store) : List StoredFile :=
  s.files.filter fun file => !root.isPrefixOf file.parts

variable {s s' : Store} {root : List Part} {path content : String}

theorem outside_congr (h : s.files = s'.files) (root : List Part) :
    s.outside root = s'.outside root := by
  rw [outside, outside, h]

/-! ### The effect of a change -/

theorem map_parts_put (files : List StoredFile) :
    (put path content files).map StoredFile.parts =
      if Path.parts path ∈ files.map StoredFile.parts then files.map StoredFile.parts
      else files.map StoredFile.parts ++ [Path.parts path] := by
  induction files with
  | nil => rfl
  | cons file rest ih =>
      by_cases hSame : file.parts = Path.parts path
      · rw [put, if_pos hSame, if_pos (by simp [hSame])]
        rfl
      · rw [put, if_neg hSame, List.map_cons, ih]
        simp only [List.map_cons, List.mem_cons, Ne.symm hSame, false_or]
        split <;> rfl

/-- After writing, a file holds what was written last. -/
theorem find?_put (files : List StoredFile) (parts : List Part) :
    ((put path content files).find? fun file => file.parts = parts).map StoredFile.content =
      if Path.parts path = parts then some content
      else (files.find? fun file => file.parts = parts).map StoredFile.content := by
  have hWritten (old : String) : (StoredFile.mk old content).parts = Path.parts old := rfl
  induction files with
  | nil => by_cases hParts : Path.parts path = parts <;> simp [put, hWritten, hParts]
  | cons file rest ih =>
      have hFile : (StoredFile.mk file.path content).parts = file.parts := rfl
      by_cases hSame : file.parts = Path.parts path
      · rw [put, if_pos hSame]
        by_cases hParts : Path.parts path = parts <;> simp [hFile, hSame, hParts]
      · rw [put, if_neg hSame]
        by_cases hParts : file.parts = parts
        · simp [hParts, Ne.symm (hParts ▸ hSame)]
        · rw [List.find?_cons_of_neg (by simpa using hParts), ih,
            List.find?_cons_of_neg (by simpa using hParts)]

/-- Writing leaves the files alone among which the written one is not. -/
theorem filter_put (select : List Part → Bool) (hSelect : select (Path.parts path) = false)
    (files : List StoredFile) :
    ((put path content files).filter fun file => select file.parts) =
      files.filter fun file => select file.parts := by
  induction files with
  | nil => simp [put, StoredFile.parts, hSelect]
  | cons file rest ih =>
      by_cases hSame : file.parts = Path.parts path
      · have hFile : select (StoredFile.mk file.path content).parts = false :=
          (congrArg select hSame).trans hSelect
        rw [put, if_pos hSame, List.filter_cons_of_neg (by simp [hFile]),
          List.filter_cons_of_neg (by simp [hSame, hSelect])]
      · rw [put, if_neg hSame, List.filter_cons, List.filter_cons, ih]

theorem write_eq_ok_iff :
    s.write path content = .ok s' ↔
      s.hasPlaceFor (Path.parts path) = true ∧
        s' = { s with files := put path content s.files } := by
  rw [write]
  split <;> simp [*, eq_comm]

theorem outside_write (hWrite : s.write path content = .ok s')
    (hPath : root <+: Path.parts path) : s'.outside root = s.outside root := by
  obtain ⟨-, rfl⟩ := write_eq_ok_iff.mp hWrite
  exact filter_put (fun parts => !root.isPrefixOf parts) (by simpa using hPath) s.files

theorem read?_write (hWrite : s.write path content = .ok s') (other : String) :
    s'.read? other =
      if Path.parts path = Path.parts other then some content else s.read? other := by
  obtain ⟨-, rfl⟩ := write_eq_ok_iff.mp hWrite
  exact find?_put s.files (Path.parts other)

theorem under_removeTree (s : Store) (path : String) :
    (s.removeTree path).under (Path.parts path) = [] := by
  rw [under, removeTree, List.filter_filter, List.filter_eq_nil_iff]
  simp

theorem outside_removeTree (s : Store) (path : String) :
    (s.removeTree path).outside (Path.parts path) = s.outside (Path.parts path) := by
  rw [outside, outside, removeTree, List.filter_filter]
  simp

theorem read?_eq_none_of_under_eq_nil (hNone : s.under root = [])
    (hPath : root <+: Path.parts path) :
    s.read? path = none := by
  rw [under, List.filter_eq_nil_iff] at hNone
  rw [read?, Option.map_eq_none_iff, file?, List.find?_eq_none]
  intro file hFile hParts
  have hParts : file.parts = Path.parts path := by simpa using hParts
  exact hNone file hFile (by simpa [hParts] using hPath)

theorem mem_directories_makeDirs {directory : List Part} :
    directory ∈ (s.makeDirs path).directories ↔
      directory ∈ s.directories ∨ directory ≠ [] ∧ directory <+: Path.parts path := by
  simp only [makeDirs, List.mem_append, List.mem_filter, mem_beginnings_iff]
  by_cases hThere : directory ∈ s.directories <;> simp [hThere]

/-- Once its directory has been made, there is a place for a file. -/
theorem hasPlaceFor_makeDirs {directory : String} (h : directory? path = some directory) :
    (s.makeDirs directory).hasPlaceFor (Path.parts path) = true := by
  rw [hasPlaceFor, parent?_parts h]
  cases hParts : Path.parts directory with
  | nil => rfl
  | cons first rest =>
      refine List.contains_iff_mem.mpr (mem_directories_makeDirs.mpr (.inr ?_))
      exact ⟨List.cons_ne_nil first rest, hParts ▸ List.prefix_rfl⟩

theorem hasPlaceFor_of_directory?_eq_none (h : directory? path = none) :
    s.hasPlaceFor (Path.parts path) = true := by
  rw [hasPlaceFor, Option.map_eq_none_iff.mp h]

/-! ### The invariant -/

theorem WellPlaced.makeDirs (h : s.WellPlaced) (path : String) : (s.makeDirs path).WellPlaced := by
  refine ⟨h.files, fun directory part hFile hDirectory => ?_, fun directory hThere above hAbove
    hPrefix => ?_⟩
  · exact mem_directories_makeDirs.mpr (.inl (h.directory directory part hFile hDirectory))
  · rw [mem_directories_makeDirs] at hThere ⊢
    rcases hThere with hThere | ⟨-, hThere⟩
    · exact .inl (h.above directory hThere above hAbove hPrefix)
    · exact .inr ⟨hAbove, hPrefix.trans hThere⟩

theorem hasPlaceFor_append {directory : List Part} {part : Part} (hPart : part ≠ .root)
    (hDirectory : directory ≠ []) :
    s.hasPlaceFor (directory ++ [part]) = s.directories.contains directory := by
  rw [hasPlaceFor, parent?_append hPart]
  cases directory with
  | nil => exact absurd rfl hDirectory
  | cons first rest => rfl

theorem WellPlaced.write (h : s.WellPlaced) (hWrite : s.write path content = .ok s') :
    s'.WellPlaced := by
  obtain ⟨hPlace, rfl⟩ := write_eq_ok_iff.mp hWrite
  refine ⟨?_, fun directory part hFile hDirectory => ?_, h.above⟩
  · rw [map_parts_put]
    split_ifs with hOld
    · exact h.files
    · exact List.nodup_append.mpr ⟨h.files, List.nodup_singleton _, by simpa using hOld⟩
  · rw [map_parts_put] at hFile
    split_ifs at hFile with hOld
    · exact h.directory directory part hFile hDirectory
    · rcases List.mem_append.mp hFile with hFile | hFile
      · exact h.directory directory part hFile hDirectory
      · have hParts := (List.mem_singleton.mp hFile).symm
        have hPart : part ≠ .root := fun hRoot =>
          hDirectory (eq_nil_of_parts_eq_append_root (hRoot ▸ hParts))
        rw [hParts, hasPlaceFor_append hPart hDirectory] at hPlace
        exact List.contains_iff_mem.mp hPlace

theorem WellPlaced.removeTree (h : s.WellPlaced) (path : String) :
    (s.removeTree path).WellPlaced := by
  refine ⟨h.files.sublist (List.filter_sublist.map _), fun directory part hFile hDirectory => ?_,
    fun directory hThere above hAbove hPrefix => ?_⟩
  · obtain ⟨file, hFile, hParts⟩ := List.mem_map.mp hFile
    obtain ⟨hFile, hKept⟩ := List.mem_filter.mp hFile
    refine List.mem_filter.mpr
      ⟨h.directory directory part (List.mem_map.mpr ⟨file, hFile, hParts⟩) hDirectory, ?_⟩
    rw [hParts] at hKept
    simp only [Bool.not_eq_true', Bool.eq_false_iff, ne_eq, List.isPrefixOf_iff_prefix] at hKept ⊢
    exact fun hBelow => hKept (hBelow.trans (List.prefix_append _ _))
  · obtain ⟨hThere, hKept⟩ := List.mem_filter.mp hThere
    refine List.mem_filter.mpr ⟨h.above directory hThere above hAbove hPrefix, ?_⟩
    simp only [Bool.not_eq_true', Bool.eq_false_iff, ne_eq, List.isPrefixOf_iff_prefix] at hKept ⊢
    exact fun hBelow => hKept (hBelow.trans hPrefix)

theorem WellPlaced.apply (h : s.WellPlaced) {c : Change} (hApply : s.apply c = .ok s') :
    s'.WellPlaced := by
  cases c with
  | makeDirs path =>
      obtain rfl := Except.ok.inj hApply
      exact h.makeDirs path
  | write path content => exact h.write hApply
  | removeTree path =>
      obtain rfl := Except.ok.inj hApply
      exact h.removeTree path

theorem Reachable.wellPlaced (h : s.Reachable) : s.WellPlaced := by
  induction h with
  | empty => exact ⟨List.nodup_nil, by simp [Store.empty], by simp [Store.empty]⟩
  | change h c hApply ih => exact ih.apply hApply

/-- Below a path where there is nothing, there are no files. -/
theorem WellPlaced.under_eq_nil (h : s.WellPlaced) (hPath : path ≠ "")
    (hAbsent : s.contains path = false) : s.under (Path.parts path) = [] := by
  simp only [contains, Bool.or_eq_false_iff, Option.isSome_eq_false_iff, Option.isNone_iff_eq_none,
    file?, List.find?_eq_none, List.contains_eq_mem, decide_eq_false_iff_not] at hAbsent
  obtain ⟨hFiles, hDirectories⟩ := hAbsent
  refine List.filter_eq_nil_iff.mpr fun file hFile hBelow => ?_
  rw [List.isPrefixOf_iff_prefix] at hBelow
  by_cases hSame : file.parts = Path.parts path
  · exact hFiles file hFile (by simpa using hSame)
  -- The file lies deeper than the path, so its directory does not lie above the path.
  obtain ⟨rest, hRest⟩ := hBelow
  have hRestNonempty : rest ≠ [] := by
    rintro rfl
    exact hSame (by rw [← hRest, List.append_nil])
  obtain ⟨others, part, rfl⟩ := (List.eq_nil_or_concat' rest).resolve_left hRestNonempty
  rw [← List.append_assoc] at hRest
  have hPlace := h.directory (Path.parts path ++ others) part
    (List.mem_map.mpr ⟨file, hFile, hRest.symm⟩) (List.append_ne_nil_of_left_ne_nil
      (parts_ne_nil hPath) _)
  exact hDirectories (h.above _ hPlace _ (parts_ne_nil hPath) (List.prefix_append _ _))

end Store

end Blueprint
