import Blueprint.Proofs.Path.Parts

/-! The directory of a path, which is found by cutting the text. Cutting off slashes and dots at the
end changes no part, and what is then cut off at the last slash is exactly the last part. -/

namespace Blueprint.Path

open Text

/-- A slash at the end adds no part, except to the empty path. -/
theorem partsOfChars_slash {cs : List Char} (h : cs ≠ []) :
    partsOfChars (cs ++ ['/']) = partsOfChars cs := by
  rw [partsOfChars_eq, partsOfChars_eq, opening_append h (.inr rfl), segments_slash]

/-- A dot after a slash adds no part. -/
theorem partsOfChars_slash_dot (cs : List Char) :
    partsOfChars (cs ++ ['/', '.']) = partsOfChars (cs ++ ['/']) := by
  have hDot : segments ['.'] = [] := rfl
  have hSplit : cs ++ ['/', '.'] = cs ++ ['/'] ++ ['.'] := by simp
  have hOpening : opening (cs ++ ['/'] ++ ['.']) = opening (cs ++ ['/']) :=
    opening_append (by simp) (.inl (by simp))
  rw [partsOfChars_eq, partsOfChars_eq, segments_append, hDot, List.append_nil, segments_slash,
    hSplit, hOpening]

/-- What `trimEnd` takes away adds no part. -/
theorem partsOfChars_trimEnd (cs : List Char) :
    partsOfChars (trimEnd cs).reverse = partsOfChars cs.reverse := by
  fun_induction trimEnd cs with
  | case1 => rfl
  | case2 rest hRest ih =>
      have hSome : rest.reverse ≠ [] := fun hNil => hRest (List.reverse_eq_nil_iff.mp hNil)
      rw [ih, List.reverse_cons, partsOfChars_slash hSome]
  | case3 rest ih =>
      rw [ih, List.reverse_cons, List.reverse_cons, List.reverse_cons, List.append_assoc]
      exact (partsOfChars_slash_dot rest.reverse).symm
  | case4 => rfl

/-- After trimming, only the root ends in a slash. -/
theorem trimEnd_slash {cs rest : List Char} (h : trimEnd cs = '/' :: rest) : rest = [] := by
  fun_induction trimEnd cs with
  | case1 => exact (List.cons.inj h).2.symm
  | case2 _ _ ih => exact ih h
  | case3 _ ih => exact ih h
  | case4 cs hRoot hSlash hDot =>
      subst h
      exact absurd rfl (hSlash rest)

/-- After trimming, no path ends in a dot behind a slash. -/
theorem trimEnd_ne_dot (cs rest : List Char) : trimEnd cs ≠ '.' :: '/' :: rest := by
  fun_induction trimEnd cs with
  | case1 => simp
  | case2 _ _ ih => exact ih
  | case3 _ ih => exact ih
  | case4 cs hRoot hSlash hDot => exact hDot rest

theorem exists_segment?_eq {cs : List Char} (h : cs ≠ [] ∧ cs ≠ ['.']) :
    ∃ part, part ≠ .root ∧ segment? cs = some part := by
  obtain ⟨part, hPart⟩ :=
    Option.ne_none_iff_exists'.mp (mt segment?_eq_none_iff.mp (not_or.mpr h))
  refine ⟨part, ?_, hPart⟩
  rintro rfl
  unfold segment? at hPart
  rw [if_neg (not_or.mpr h)] at hPart
  split at hPart <;> cases hPart

/-- A path without slashes has one part. -/
theorem exists_partsOfChars_eq_singleton {cs : List Char} (hSome : cs ≠ []) (hSlash : '/' ∉ cs) :
    ∃ part, part ≠ .root ∧ partsOfChars cs = [part] := by
  by_cases hDot : cs = ['.']
  · rw [hDot]
    exact ⟨.here, Part.noConfusion, rfl⟩
  · obtain ⟨part, hRoot, hPart⟩ := exists_segment?_eq ⟨hSome, hDot⟩
    refine ⟨part, hRoot, ?_⟩
    rw [partsOfChars_eq, opening_of_not_mem hSlash hDot, segments, splitChars_of_not_mem hSlash,
      List.filterMap_cons_some hPart]
    rfl

/-- What stands before the last slash has all parts but the last one. -/
theorem exists_partsOfChars_eq_append {cs : List Char} (hSome : trimEnd cs ≠ [])
    (hRoot : trimEnd cs ≠ ['/']) :
    ∃ part, part ≠ .root ∧
      partsOfChars cs.reverse =
        partsOfChars ((trimEnd cs).dropWhile (· ≠ '/')).reverse ++ [part] := by
  have hCut := List.takeWhile_append_dropWhile (p := (· ≠ '/')) (l := trimEnd cs)
  have hSlash : '/' ∉ (trimEnd cs).takeWhile (· ≠ '/') := fun hMem => by
    simpa using List.mem_takeWhile_imp hMem
  rw [← partsOfChars_trimEnd]
  generalize (trimEnd cs).takeWhile (· ≠ '/') = last at hCut hSlash
  cases hBefore : (trimEnd cs).dropWhile (· ≠ '/') with
  | nil =>
      rw [hBefore, List.append_nil] at hCut
      rw [← hCut] at hSome ⊢
      exact exists_partsOfChars_eq_singleton (by simpa using hSome) (by simpa using hSlash)
  | cons c before =>
      obtain rfl : c = '/' := by
        have hHead := List.head?_dropWhile_not (· ≠ '/') (trimEnd cs)
        rw [hBefore] at hHead
        simpa using hHead
      rw [hBefore] at hCut
      have hLast : last.reverse ≠ [] ∧ last.reverse ≠ ['.'] := by
        constructor
        · intro hNil
          rw [List.reverse_eq_nil_iff.mp hNil, List.nil_append] at hCut
          exact hRoot (by rw [← hCut, trimEnd_slash hCut.symm])
        · intro hDot
          rw [List.reverse_eq_iff.mp hDot] at hCut
          exact trimEnd_ne_dot cs before hCut.symm
      obtain ⟨part, hPartRoot, hPart⟩ := exists_segment?_eq hLast
      refine ⟨part, hPartRoot, ?_⟩
      have hSegments : segments last.reverse = [part] := by
        rw [segments, splitChars_of_not_mem (by simpa using hSlash),
          List.filterMap_cons_some hPart]
        rfl
      have hOpening : opening (before.reverse ++ ['/'] ++ last.reverse) =
          opening (before.reverse ++ ['/']) :=
        opening_append (List.concat_ne_nil _ _) (.inl List.getLast?_concat)
      rw [← hCut, List.reverse_append, List.reverse_cons, partsOfChars_eq, hOpening,
        partsOfChars_eq, List.append_assoc, List.singleton_append, segments_append, hSegments,
        segments_slash, List.append_assoc]

/-- The directory of a path has all its parts but the last one. -/
theorem parent?_parts {path directory : String} (h : directory? path = some directory) :
    parent? (parts path) = some (parts directory) := by
  obtain ⟨above, hAbove, rfl⟩ := Option.map_eq_some_iff.mp h
  have hParts := partsOfChars_trimEnd path.toList.reverse
  rw [List.reverse_reverse] at hParts
  have hSome : trimEnd path.toList.reverse ≠ [] := by
    intro hNil
    rw [parts, ← hParts, hNil] at hAbove
    cases hAbove
  have hRoot : trimEnd path.toList.reverse ≠ ['/'] := by
    intro hSlash
    rw [parts, ← hParts, hSlash] at hAbove
    cases hAbove
  obtain ⟨part, hPart, hEq⟩ := exists_partsOfChars_eq_append hSome hRoot
  rw [List.reverse_reverse] at hEq
  rw [parts, hEq, parent?_append hPart, parts, String.toList_ofList, partsOfChars_trimEnd]

end Blueprint.Path
