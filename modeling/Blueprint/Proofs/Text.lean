import Blueprint.Text.Ascii
import Blueprint.Text.Blank
import Blueprint.Text.Split
import Mathlib.Data.List.Basic
import Mathlib.Data.List.DropRight

/-! Parts of texts and their lengths. The parts between separators are the one list of texts without
the separator that gives the text again, and characters of one byte are counted by the length. What
is trimmed has no blank ends left to trim. -/

namespace Blueprint.Text

/-! ### Parts -/

theorem splitChars_eq_splitOn (sep : Char) (cs : List Char) :
    splitChars sep cs = cs.splitOn sep := by
  induction cs with
  | nil => rfl
  | cons c rest ih =>
      rw [splitChars, ih, List.splitOn_cons_eq_if_modifyHead]
      by_cases hSep : c = sep
      · rw [if_pos hSep, if_pos (beq_iff_eq.mpr hSep)]
      · obtain ⟨part, parts, hParts⟩ :=
          List.exists_cons_of_ne_nil (List.splitOn_ne_nil sep rest)
        rw [if_neg hSep, if_neg (by simpa using hSep), hParts]
        rfl

/-- A separator between two texts separates their parts. -/
theorem splitChars_append (sep : Char) (before after : List Char) :
    splitChars sep (before ++ sep :: after) = splitChars sep before ++ splitChars sep after := by
  simp only [splitChars_eq_splitOn, List.splitOn_append_cons_self]

theorem splitChars_of_not_mem {sep : Char} {cs : List Char} (h : sep ∉ cs) :
    splitChars sep cs = [cs] := by
  rw [splitChars_eq_splitOn, List.splitOn_eq_singleton h]

/-- No part contains the separator. -/
theorem not_mem_of_mem_splitChars {sep : Char} {cs part : List Char}
    (h : part ∈ splitChars sep cs) : sep ∉ part := by
  induction cs generalizing part with
  | nil =>
      rw [splitChars, List.mem_singleton] at h
      rw [h]
      exact List.not_mem_nil
  | cons c rest ih =>
      obtain ⟨first, others, hRest⟩ := List.exists_cons_of_ne_nil (splitChars_ne_nil sep rest)
      rw [hRest] at ih
      obtain ⟨hFirst, hOthers⟩ := List.forall_mem_cons.mp fun part => @ih part
      rw [splitChars, hRest] at h
      split at h
      next hSep =>
        rcases List.mem_cons.mp h with rfl | hMem
        · exact List.not_mem_nil
        · exact ih hMem
      next hSep =>
        rcases List.mem_cons.mp h with rfl | hMem
        · rw [List.mem_cons, not_or]
          exact ⟨Ne.symm hSep, hFirst⟩
        · exact hOthers part hMem

/-- Every character is the separator or stands in a part. -/
theorem eq_or_mem_splitChars (sep : Char) {c : Char} {cs : List Char} (h : c ∈ cs) :
    c = sep ∨ ∃ part ∈ splitChars sep cs, c ∈ part := by
  induction cs with
  | nil => exact absurd h List.not_mem_nil
  | cons d rest ih =>
      obtain ⟨first, others, hRest⟩ := List.exists_cons_of_ne_nil (splitChars_ne_nil sep rest)
      rw [hRest] at ih
      rw [splitChars, hRest]
      split
      next hSep =>
        rcases List.mem_cons.mp h with rfl | hMem
        · exact .inl hSep
        · rcases ih hMem with hChar | ⟨part, hPart, hIn⟩
          · exact .inl hChar
          · exact .inr ⟨part, List.mem_cons_of_mem _ hPart, hIn⟩
      next hSep =>
        rcases List.mem_cons.mp h with rfl | hMem
        · exact .inr ⟨_, List.mem_cons_self, List.mem_cons_self⟩
        · rcases ih hMem with hChar | ⟨part, hPart, hIn⟩
          · exact .inl hChar
          · rcases List.mem_cons.mp hPart with rfl | hOther
            · exact .inr ⟨_, List.mem_cons_self, List.mem_cons_of_mem _ hIn⟩
            · exact .inr ⟨part, List.mem_cons_of_mem _ hOther, hIn⟩

/-- Parts without the separator come back as they were put together. -/
theorem splitChars_intercalate {sep : Char} {parts : List String} (hParts : parts ≠ [])
    (hFree : ∀ part ∈ parts, sep ∉ part.toList) :
    splitChars sep (String.intercalate (String.singleton sep) parts).toList =
      parts.map String.toList := by
  rw [String.toList_intercalate, String.toList_singleton, splitChars_eq_splitOn,
    List.splitOn_intercalate sep (List.forall_mem_map.mpr hFree)
      fun hNil => hParts (List.map_eq_nil_iff.mp hNil)]

theorem split_intercalate {sep : Char} {parts : List String} (hParts : parts ≠ [])
    (hFree : ∀ part ∈ parts, sep ∉ part.toList) :
    split sep (String.intercalate (String.singleton sep) parts) = parts := by
  rw [split, splitChars_intercalate hParts hFree, List.map_map]
  exact List.map_id'' (fun _ => String.ofList_toList) _

/-- A property of the parts of a text is one of the texts between its separators. -/
theorem splitChars_iff (P : List (List Char) → Prop) (sep : Char) (s : String) :
    P (splitChars sep s.toList) ↔
      ∃ parts : List String, parts ≠ [] ∧ (∀ part ∈ parts, sep ∉ part.toList) ∧
        s = String.intercalate (String.singleton sep) parts ∧ P (parts.map String.toList) := by
  constructor
  · intro h
    have hMap : ((splitChars sep s.toList).map String.ofList).map String.toList =
        splitChars sep s.toList := by simp
    refine ⟨(splitChars sep s.toList).map String.ofList, ?_, ?_, ?_, by rwa [hMap]⟩
    · exact fun hNil => splitChars_ne_nil _ _ (List.map_eq_nil_iff.mp hNil)
    · intro part hMem
      obtain ⟨chars, hChars, rfl⟩ := List.mem_map.mp hMem
      rw [String.toList_ofList]
      exact not_mem_of_mem_splitChars hChars
    · rw [← String.toList_inj, String.toList_intercalate, hMap, String.toList_singleton,
        splitChars_eq_splitOn, List.intercalate_splitOn]
  · rintro ⟨parts, hParts, hFree, rfl, h⟩
    rwa [splitChars_intercalate hParts hFree]

/-- What holds of the separator and of the parts holds of the text put together from them. -/
theorem forall_mem_intercalate {P : Char → Prop} {sep : String} (hSep : ∀ c ∈ sep.toList, P c)
    {parts : List String} (hParts : ∀ part ∈ parts, ∀ c ∈ part.toList, P c) :
    ∀ c ∈ (String.intercalate sep parts).toList, P c := by
  induction parts with
  | nil => simp
  | cons part rest ih =>
      obtain ⟨hPart, hRest⟩ := List.forall_mem_cons.mp hParts
      cases rest with
      | nil => rwa [String.intercalate_singleton]
      | cons next others =>
          rw [String.intercalate_cons_cons, String.toList_append, String.toList_append]
          exact List.forall_mem_append.mpr ⟨List.forall_mem_append.mpr ⟨hPart, hSep⟩, ih hRest⟩

theorem toList_ofLines (lines : List String) :
    (ofLines lines).toList = lines.flatMap fun line => line.toList ++ ['\n'] := by
  rw [ofLines, String.toList_join, List.flatMap_map]
  simp

/-! ### Beginnings -/

theorem afterChars_eq_some_iff {start cs rest : List Char} :
    afterChars start cs = some rest ↔ cs = start ++ rest := by
  induction start generalizing cs with
  | nil => rw [afterChars, Option.some.injEq, List.nil_append]
  | cons s start ih =>
      cases cs with
      | nil => simp [afterChars]
      | cons c cs =>
          rw [afterChars, List.cons_append, List.cons.injEq, ← ih, eq_comm (a := c)]
          split
          next hSame => simp [hSame]
          next hOther => simp [hOther]

/-- A text is cut at the first separator. -/
theorem cutChars_eq_some_iff {sep : Char} {cs before after : List Char} :
    cutChars sep cs = some (before, after) ↔ sep ∉ before ∧ cs = before ++ sep :: after := by
  induction cs generalizing before with
  | nil => simp [cutChars]
  | cons c rest ih =>
      rw [cutChars]
      split
      next hSep =>
        subst hSep
        constructor
        · intro h
          cases h
          exact ⟨List.not_mem_nil, rfl⟩
        · rintro ⟨hFree, hText⟩
          cases before with
          | nil => rw [(List.cons.inj hText).2]
          | cons d others =>
              rw [(List.cons.inj hText).1] at hFree
              exact absurd List.mem_cons_self hFree
      next hOther =>
        rw [Option.map_eq_some_iff]
        constructor
        · rintro ⟨⟨start, rest'⟩, hRest, hPair⟩
          cases hPair
          obtain ⟨hFree, hText⟩ := ih.mp hRest
          exact ⟨by simpa [hFree] using Ne.symm hOther, by rw [hText, List.cons_append]⟩
        · rintro ⟨hFree, hText⟩
          cases before with
          | nil => exact absurd (List.cons.inj hText).1 hOther
          | cons d others =>
              obtain ⟨rfl, hRest⟩ := List.cons.inj hText
              have hOthers : sep ∉ others := mt (List.mem_cons_of_mem c) hFree
              exact ⟨(others, after), ih.mpr ⟨hOthers, hRest⟩, rfl⟩

/-! ### Lengths -/

theorem charsByteCount_eq_length {cs : List Char} (h : ∀ c ∈ cs, c.utf8Size = 1) :
    charsByteCount cs = cs.length := by
  induction cs with
  | nil => rfl
  | cons c rest ih =>
      obtain ⟨hFirst, hRest⟩ := List.forall_mem_cons.mp h
      have hSum := ih hRest
      simp only [charsByteCount, total, List.map_cons, List.foldr_cons] at hSum ⊢
      rw [hSum, hFirst, List.length_cons, Nat.add_comm]

theorem utf8Size_of_isAlnum {c : Char} (h : isAlnum c = true) : c.utf8Size = 1 := by
  rw [Char.utf8Size_eq_one_iff]
  simp only [isAlnum, isLetter, isLower, isUpper, isDigit, Bool.or_eq_true, Bool.and_eq_true,
    decide_eq_true_eq, Char.le_def] at h
  rcases h with (⟨-, h⟩ | ⟨-, h⟩) | ⟨-, h⟩ <;> exact UInt32.le_trans h (by decide)

/-! ### Trimming -/

theorem isBlank_of_isAlnum {c : Char} (h : isAlnum c = true) : isBlank c = false := by
  simp only [isAlnum, isLetter, isLower, isUpper, isDigit, Bool.or_eq_true, Bool.and_eq_true,
    decide_eq_true_eq, Char.le_def, UInt32.le_iff_toNat_le, Char.reduceVal,
    UInt32.reduceToNat] at h
  have hCode : c.toNat = c.val.toNat := rfl
  simp only [isBlank, hCode, Bool.or_eq_false_iff, Bool.and_eq_false_iff, decide_eq_false_iff_not,
    beq_eq_false_iff_ne]
  omega

/-- What is cut off at the end does not change how a list begins. -/
theorem dropWhile_of_isPrefix {α : Type} {p : α → Bool} {front items : List α}
    (hPrefix : front <+: items) (h : items.dropWhile p = items) : front.dropWhile p = front := by
  cases front with
  | nil => rfl
  | cons first rest =>
      obtain ⟨others, rfl⟩ := hPrefix
      refine List.dropWhile_cons_of_neg ?_
      exact List.dropWhile_eq_self_iff.mp h (Nat.zero_lt_succ _)

theorem trimChars_trimChars (cs : List Char) : trimChars (trimChars cs) = trimChars cs := by
  have hTrim : ∀ cs, trimChars cs = (cs.dropWhile isBlank).rdropWhile isBlank := fun _ => rfl
  have hFront : (trimChars cs).dropWhile isBlank = trimChars cs := by
    rw [hTrim]
    exact dropWhile_of_isPrefix (List.rdropWhile_prefix _ _) (List.dropWhile_idempotent _ _)
  rw [hTrim (trimChars cs), hFront, hTrim cs, List.rdropWhile_idempotent]

theorem trim_trim (s : String) : trim (trim s) = trim s := by
  rw [trim, trim, String.toList_ofList, trimChars_trimChars]

theorem isBlank_or_mem_dropWhile {c : Char} {cs : List Char} (h : c ∈ cs) :
    isBlank c = true ∨ c ∈ cs.dropWhile isBlank := by
  rw [← List.takeWhile_append_dropWhile (p := isBlank) (l := cs), List.mem_append] at h
  exact h.imp_left List.mem_takeWhile_imp

/-- Nothing but blanks is trimmed. -/
theorem isBlank_or_mem_trim {c : Char} {s : String} (h : c ∈ s.toList) :
    isBlank c = true ∨ c ∈ (trim s).toList := by
  rw [trim, String.toList_ofList, trimChars, List.mem_reverse]
  rcases isBlank_or_mem_dropWhile h with hBlank | hFront
  · exact .inl hBlank
  · exact isBlank_or_mem_dropWhile (List.mem_reverse.mpr hFront)

theorem trim_of_forall_not_blank {s : String} (h : ∀ c ∈ s.toList, isBlank c = false) :
    trim s = s := by
  have hFront : s.toList.dropWhile isBlank = s.toList :=
    List.dropWhile_eq_self_iff.mpr fun hSome => by simp [h _ (List.getElem_mem hSome)]
  have hBack : s.toList.rdropWhile isBlank = s.toList :=
    List.rdropWhile_eq_self_iff.mpr fun hSome => by simp [h _ (List.getLast_mem hSome)]
  rw [trim, show trimChars s.toList = (s.toList.dropWhile isBlank).rdropWhile isBlank from rfl,
    hFront, hBack, String.ofList_toList]

end Blueprint.Text
