import Blueprint.Artifact
import Blueprint.Proofs.Text

/-! The parts of paths. Only the empty path has none, and only the first one can be the root. A
path that is joined to another one adds its segments to the parts of it, whatever slashes and dots
stand where the two meet. -/

namespace Blueprint

namespace Path

open Text

/-- The parts of a path apart from its opening. -/
def segments (cs : List Char) : List Part := (splitChars '/' cs).filterMap segment?

theorem partsOfChars_eq (cs : List Char) : partsOfChars cs = opening cs ++ segments cs := rfl

theorem segments_append (before after : List Char) :
    segments (before ++ '/' :: after) = segments before ++ segments after := by
  rw [segments, splitChars_append, List.filterMap_append]
  rfl

theorem segments_nil : segments [] = [] := rfl

/-- A slash at the end of a path adds no part. -/
theorem segments_slash (cs : List Char) : segments (cs ++ ['/']) = segments cs := by
  rw [segments_append, segments_nil, List.append_nil]

theorem opening_append {before after : List Char} (hBefore : before ≠ [])
    (hMeet : before.getLast? = some '/' ∨ after.head? = some '/') :
    opening (before ++ after) = opening before := by
  obtain ⟨c, rest, rfl⟩ := List.exists_cons_of_ne_nil hBefore
  by_cases hSlash : c = '/'
  · subst hSlash
    rfl
  by_cases hDot : c = '.'
  · subst hDot
    cases rest with
    | nil =>
        -- A lone dot opens a path only if a slash follows.
        cases after with
        | nil => rfl
        | cons d rest =>
            obtain rfl : d = '/' := by simpa using hMeet
            rfl
    | cons d rest =>
        by_cases hNext : d = '/'
        · subst hNext
          rfl
        · simp [opening, hNext]
  · simp [opening, hSlash, hDot]

theorem segment?_eq_none_iff {cs : List Char} : segment? cs = none ↔ cs = [] ∨ cs = ['.'] := by
  unfold segment?
  by_cases hEmpty : cs = [] ∨ cs = ['.']
  · simp [hEmpty]
  · by_cases hUp : cs = ['.', '.'] <;> simp [hEmpty, hUp]

theorem segments_ne_nil {cs part : List Char} {parts : List (List Char)}
    (hParts : splitChars '/' cs = part :: parts) (hPart : part ≠ [] ∧ part ≠ ['.']) :
    segments cs ≠ [] := by
  obtain ⟨first, hFirst⟩ :=
    Option.ne_none_iff_exists'.mp (mt segment?_eq_none_iff.mp (not_or.mpr hPart))
  rw [segments, hParts, List.filterMap_cons_some hFirst]
  exact List.cons_ne_nil _ _

/-- Every path but the empty one has parts. -/
theorem parts_ne_nil {path : String} (h : path ≠ "") : parts path ≠ [] := by
  have hChars : path.toList ≠ [] := by simpa using h
  rw [parts, partsOfChars_eq]
  obtain ⟨c, rest, hPath⟩ := List.exists_cons_of_ne_nil hChars
  rw [hPath]
  by_cases hSlash : c = '/'
  · simp [opening, hSlash]
  obtain ⟨part, parts, hParts⟩ := List.exists_cons_of_ne_nil (splitChars_ne_nil '/' rest)
  have hFirst : splitChars '/' (c :: rest) = (c :: part) :: parts := by
    simp [splitChars, hSlash, hParts]
  by_cases hDot : c :: part = ['.']
  · obtain ⟨rfl, rfl⟩ := List.cons_eq_cons.mp hDot
    -- The first segment is a lone dot, so that the dot opens the path.
    have hOpening : opening ('.' :: rest) = [.here] := by
      cases rest with
      | nil => rfl
      | cons d rest =>
          by_cases hNext : d = '/'
          · rw [hNext]
            rfl
          · rw [splitChars, if_neg hNext] at hParts
            split at hParts <;> simp at hParts
    simp [hOpening]
  · exact List.append_ne_nil_of_right_ne_nil _
      (segments_ne_nil hFirst ⟨List.cons_ne_nil _ _, hDot⟩)

/-- The root can only be the first part of a path. -/
theorem eq_nil_of_parts_eq_append_root {path : String} {directory : List Part}
    (h : parts path = directory ++ [.root]) : directory = [] := by
  have hSegments : .root ∉ segments path.toList := by
    rw [segments, List.mem_filterMap]
    rintro ⟨cs, -, hSegment⟩
    unfold segment? at hSegment
    split at hSegment
    · cases hSegment
    · split at hSegment <;> cases hSegment
  have hOpening : (opening path.toList).length ≤ 1 := by
    unfold opening
    split <;> simp
  rw [parts, partsOfChars_eq] at h
  by_cases hNone : segments path.toList = []
  · rw [hNone, List.append_nil] at h
    rw [h, List.length_append, List.length_singleton] at hOpening
    exact List.eq_nil_of_length_eq_zero (by omega)
  · have hLast := List.getLast?_eq_some_getLast hNone
    have hEnd := congrArg List.getLast? h
    rw [List.getLast?_append, hLast, Option.some_or, List.getLast?_concat] at hEnd
    exact absurd (List.mem_of_getLast? (hLast.trans hEnd)) hSegments

/-- Joining adds the segments of a relative path. -/
theorem parts_join {base path : String} (hBase : base ≠ "") (hPath : isAbsolute path = false) :
    parts (join base path) = parts base ++ segments path.toList := by
  have hChars : base.toList ≠ [] := by simpa using hBase
  rw [join, if_neg (by simp [hPath]), if_neg hChars]
  by_cases hSlash : base.toList.getLast? = some '/'
  · obtain ⟨rest, hRest⟩ := List.getLast?_eq_some_iff.mp hSlash
    rw [if_pos hSlash, parts, String.toList_append, partsOfChars_eq,
      opening_append hChars (.inl hSlash), parts, partsOfChars_eq, hRest, List.append_assoc,
      List.singleton_append, segments_append, segments_slash, List.append_assoc]
  · rw [if_neg hSlash, parts, String.toList_append, String.toList_append, partsOfChars_eq,
      List.append_assoc, opening_append hChars (.inr rfl), parts, partsOfChars_eq]
    change opening _ ++ segments (base.toList ++ '/' :: path.toList) = _
    rw [segments_append, List.append_assoc]

/-- Below the empty path, every path is itself. -/
theorem join_nil (path : String) : join "" path = path := by
  simp [join]

theorem opening_of_not_mem {cs : List Char} (hSlash : '/' ∉ cs) (hDot : cs ≠ ['.']) :
    opening cs = [] := by
  unfold opening
  split
  next => simp at hSlash
  next => exact absurd rfl hDot
  next => simp at hSlash
  next => rfl

/-- A text without slashes is a name, apart from the few that have a meaning in paths. -/
theorem isRelativePath_of_not_mem {text : String} (hSlash : '/' ∉ text.toList)
    (hName : text.toList ∉ [[], ['.'], ['.', '.']]) : IsRelativePath text := by
  simp only [List.mem_cons, List.not_mem_nil, or_false, not_or] at hName
  refine ⟨by simpa using hName.1, ?_⟩
  rw [parts, partsOfChars_eq, opening_of_not_mem hSlash hName.2.1, segments,
    splitChars_of_not_mem hSlash]
  simp [segment?, hName, staysInside]

/-- The last part of a path, other than the root, stands in what comes before it. -/
theorem parent?_append {directory : List Part} {part : Part} (hPart : part ≠ .root) :
    parent? (directory ++ [part]) = some directory := by
  rw [parent?, List.getLast?_concat, List.dropLast_concat]
  cases part with
  | root => exact absurd rfl hPart
  | here | up | name s => rfl

theorem parent?_eq_some_iff {path directory : List Part} :
    parent? path = some directory ↔ ∃ part, part ≠ .root ∧ path = directory ++ [part] := by
  constructor
  · intro h
    obtain rfl | ⟨front, last, rfl⟩ := List.eq_nil_or_concat' path
    · cases h
    · have hLast : last ≠ .root := by
        rintro rfl
        rw [parent?, List.getLast?_concat] at h
        cases h
      rw [parent?_append hLast, Option.some.injEq] at h
      exact ⟨last, hLast, by rw [h]⟩
  · rintro ⟨part, hPart, rfl⟩
    exact parent?_append hPart

/-- The path of an artifact does not start at the root. -/
theorem isAbsolute_eq_false (path : RelativePath) : isAbsolute path.text = false := by
  refine Bool.eq_false_iff.mpr fun hAbsolute => ?_
  obtain ⟨rest, hText⟩ := List.head?_eq_some_iff.mp (of_decide_eq_true hAbsolute)
  have hInside := path.isRelativePath.2
  rw [parts, hText, partsOfChars_eq] at hInside
  simp [opening, staysInside] at hInside

/-- An artifact stays below the directory into which it is written. -/
theorem parts_isPrefix_join {root : String} (hRoot : root ≠ "") (path : RelativePath) :
    parts root <+: parts (join root path.text) := by
  rw [parts_join hRoot (isAbsolute_eq_false path)]
  exact List.prefix_append _ _

end Path

end Blueprint
