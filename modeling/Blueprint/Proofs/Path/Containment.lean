import Blueprint.Proofs.Path.Parts
import Mathlib.Data.Set.List

/-! Paths that cannot leave the directory below which they are used. The rule is told by the text
alone, by how it starts and by what stands between its slashes. Below any directory such a path adds
names only, so whoever follows it never comes out above that directory. -/

namespace Blueprint

namespace Path

open Text

/-! ### Following a path -/

/-- One more part on the way from a place. Two dots undo the last name; at the root they lead
nowhere, and where there is no name to undo they are kept. -/
def follow (place : List Part) : Part → List Part
  | .root => place ++ [.root]
  | .here => place
  | .up =>
    match place.getLast? with
    | some (.name _) => place.dropLast
    | some .root => place
    | _ => place ++ [.up]
  | .name s => place ++ [.name s]

/-- The place to which a path leads, without dots and with no name that two dots undo. -/
def resolve (path : List Part) : List Part := path.foldl follow []

/-- Names and a dot lead to the same place or deeper. The induction is on the parts that are still
to be followed, from any place. -/
theorem exists_foldl_follow_eq {added : List Part} (h : staysInside added = true)
    (place : List Part) :
    ∃ names, added.foldl follow place = place ++ List.map Part.name names := by
  induction added generalizing place with
  | nil => exact ⟨[], (List.append_nil place).symm⟩
  | cons part rest ih =>
      rw [staysInside, List.all_cons, Bool.and_eq_true] at h
      obtain ⟨hPart, hRest⟩ := h
      cases part with
      | root | up => cases hPart
      | here => exact ih hRest place
      | name s =>
          obtain ⟨names, hNames⟩ := ih hRest (place ++ [.name s])
          refine ⟨s :: names, ?_⟩
          rw [List.foldl_cons, follow, hNames, List.append_assoc]
          rfl

theorem staysInside_append {front back : List Part} :
    staysInside (front ++ back) = true ↔ staysInside front = true ∧ staysInside back = true := by
  rw [staysInside, List.all_append, Bool.and_eq_true]
  rfl

/-- How a path goes on from a directory: only names are added, so that however far it is followed,
it comes to names at or below the place of the directory. -/
structure StaysBelow (root path : String) : Prop where
  /-- Only the empty directory leaves in its place the dot with which a path may start. -/
  adds : ∃ opening names,
    parts (join root path) = parts root ++ (opening ++ List.map Part.name names) ∧
      (opening = [] ∨ root = "" ∧ opening = [.here])
  leads : ∀ reached, parts root <+: reached → reached <+: parts (join root path) →
    ∃ names, resolve reached = resolve (parts root) ++ List.map Part.name names

theorem StaysBelow.of_parts {root path : String} {opening : List Part} {names : List String}
    (hParts : parts (join root path) = parts root ++ (opening ++ names.map .name))
    (hOpening : opening = [] ∨ root = "" ∧ opening = [.here]) : StaysBelow root path := by
  have hInside : staysInside (opening ++ names.map .name) = true := by
    have hNames : staysInside (names.map .name) = true := List.all_eq_true.mpr (by simp)
    rcases hOpening with rfl | ⟨-, rfl⟩ <;> exact hNames
  refine ⟨⟨opening, names, hParts, hOpening⟩, ?_⟩
  rintro _ ⟨added, rfl⟩ hReached
  rw [hParts, List.prefix_append_right_inj] at hReached
  obtain ⟨rest, hRest⟩ := hReached
  rw [← hRest, staysInside_append] at hInside
  rw [resolve, List.foldl_append]
  exact exists_foldl_follow_eq hInside.1 _

/-! ### The rule -/

theorem segment?_eq_some_up_iff {cs : List Char} : segment? cs = some .up ↔ cs = ['.', '.'] := by
  unfold segment?
  by_cases hEmpty : cs = [] ∨ cs = ['.']
  · rcases hEmpty with rfl | rfl <;> simp
  · by_cases hUp : cs = ['.', '.'] <;> simp [hEmpty, hUp]

/-- Between slashes there are names and two dots, nothing else. -/
theorem eq_up_or_name_of_mem_segments {cs : List Char} {part : Part} (h : part ∈ segments cs) :
    part = .up ∨ ∃ s, .name s = part := by
  obtain ⟨segment, -, hSegment⟩ := List.mem_filterMap.mp h
  unfold segment? at hSegment
  split at hSegment
  · cases hSegment
  · split at hSegment
    · exact .inl (Option.some.inj hSegment).symm
    · exact .inr ⟨_, Option.some.inj hSegment⟩

theorem up_mem_segments_iff {cs : List Char} :
    .up ∈ segments cs ↔ ['.', '.'] ∈ cs.splitOn '/' := by
  rw [segments, List.mem_filterMap, splitChars_eq_splitOn]
  simp only [segment?_eq_some_up_iff, exists_eq_right]

/-- Without two dots there are only names. -/
theorem exists_segments_eq {cs : List Char} (h : ['.', '.'] ∉ cs.splitOn '/') :
    ∃ names, segments cs = List.map Part.name names := by
  have hNames : ∀ part ∈ segments cs, part ∈ Set.range Part.name := by
    intro part hMem
    refine (eq_up_or_name_of_mem_segments hMem).resolve_left ?_
    rintro rfl
    exact h (up_mem_segments_iff.mp hMem)
  obtain ⟨names, hMap⟩ := (Set.range_list_map Part.name).ge hNames
  exact ⟨names, hMap.symm⟩

theorem staysInside_segments_iff {cs : List Char} :
    staysInside (segments cs) = true ↔ ['.', '.'] ∉ cs.splitOn '/' := by
  constructor
  · intro h hUp
    cases List.all_eq_true.mp h _ (up_mem_segments_iff.mpr hUp)
  · intro h
    obtain ⟨names, hNames⟩ := exists_segments_eq h
    rw [hNames]
    exact List.all_eq_true.mpr (by simp)

theorem opening_cases {cs : List Char} (h : cs.head? ≠ some '/') :
    opening cs = [] ∨ opening cs = [.here] := by
  unfold opening
  split <;> simp at h ⊢

theorem staysInside_opening_iff {cs : List Char} :
    staysInside (opening cs) = true ↔ cs.head? ≠ some '/' := by
  constructor
  · intro h hSlash
    obtain ⟨rest, rfl⟩ := List.head?_eq_some_iff.mp hSlash
    cases h
  · intro h
    rcases opening_cases h with hOpening | hOpening <;> rw [hOpening] <;> rfl

/-- A path is accepted if it is not empty, does not start at the root and contains no two dots. -/
theorem isRelativePath_iff {text : String} :
    IsRelativePath text ↔
      text ≠ "" ∧ text.toList.head? ≠ some '/' ∧ ['.', '.'] ∉ text.toList.splitOn '/' := by
  rw [IsRelativePath, parts, partsOfChars_eq, staysInside_append, staysInside_opening_iff,
    staysInside_segments_iff]

theorem staysBelow_of_isRelativePath {path : String} (h : IsRelativePath path) (root : String) :
    StaysBelow root path := by
  obtain ⟨-, hSlash, hUp⟩ := isRelativePath_iff.mp h
  obtain ⟨names, hNames⟩ := exists_segments_eq hUp
  by_cases hRoot : root = ""
  · subst hRoot
    have hParts : parts (join "" path) =
        parts "" ++ (opening path.toList ++ names.map .name) := by
      rw [join_nil, ← hNames]
      rfl
    exact .of_parts hParts ((opening_cases hSlash).imp_right fun hHere => ⟨rfl, hHere⟩)
  · have hRelative : isAbsolute path = false := decide_eq_false hSlash
    have hParts : parts (join root path) = parts root ++ ([] ++ names.map .name) := by
      rw [parts_join hRoot hRelative, hNames, List.nil_append]
    exact .of_parts hParts (.inl rfl)

end Path

namespace RelativePath

theorem ofString_eq_ok_iff {text : String} {path : RelativePath} :
    ofString text = .ok path ↔ path.text = text := by
  unfold ofString
  split
  next h =>
    refine ⟨fun hOk => by rw [← Except.ok.inj hOk], ?_⟩
    rintro rfl
    rfl
  next h =>
    refine ⟨fun hOk => (by cases hOk), ?_⟩
    rintro rfl
    exact absurd path.isRelativePath h

/-- A path is accepted exactly if it is not empty, does not start with a slash and has no two dots
between its slashes. What is accepted stays below any directory to which it is joined. -/
theorem ofString_staysBelow (text : String) :
    ((∃ path, ofString text = .ok path) ↔
      text ≠ "" ∧ text.toList.head? ≠ some '/' ∧ ['.', '.'] ∉ text.toList.splitOn '/') ∧
    ∀ path, ofString text = .ok path →
      path.text = text ∧ ∀ root, Path.StaysBelow root path.text := by
  refine ⟨?_, fun path hPath => ?_⟩
  · rw [← Path.isRelativePath_iff]
    constructor
    · rintro ⟨path, hPath⟩
      exact ofString_eq_ok_iff.mp hPath ▸ path.isRelativePath
    · exact fun h => ⟨⟨text, h⟩, ofString_eq_ok_iff.mpr rfl⟩
  · exact ⟨ofString_eq_ok_iff.mp hPath, Path.staysBelow_of_isRelativePath path.isRelativePath⟩

/-- A path with slashes and dots to spare, below a directory that is told by two dots. -/
theorem ofString_staysBelow_spare :
    ∃ path, ofString "./site//./Base.json" = .ok path ∧ Path.StaysBelow "out/.." path.text ∧
      Path.parts (Path.join "out/.." path.text) =
        [.name "out", .up, .name "site", .name "Base.json"] := by
  obtain ⟨hAccepted, hBelow⟩ := ofString_staysBelow "./site//./Base.json"
  obtain ⟨path, hPath⟩ := hAccepted.mpr (by decide +kernel)
  obtain ⟨hText, hPath⟩ := hBelow path hPath
  refine ⟨path, ofString_eq_ok_iff.mpr hText, hPath _, ?_⟩
  rw [hText]
  decide +kernel

end RelativePath

end Blueprint
