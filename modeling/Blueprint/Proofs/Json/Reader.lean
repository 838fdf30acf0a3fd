import Blueprint.Json.Reader
import Mathlib.Data.List.Forall2
import Mathlib.Data.List.TakeWhile

/-! Reading objects that are written member by member. What stands between quotation marks is read
as it is when nothing in it is escaped, and the members are the ones that were written. -/

namespace Blueprint.Json

/-! ### Texts -/

/-- The characters of a string literal in which nothing is escaped. -/
def IsUnescaped (cs : List Char) : Prop := '"' ∉ cs ∧ '\\' ∉ cs
  deriving Decidable

/-- The characters of a string literal that are read as they are. -/
structure IsVerbatim (cs : List Char) : Prop where
  unescaped : IsUnescaped cs
  printable : ∀ c ∈ cs, 32 ≤ c.toNat

theorem isVerbatim_iff {cs : List Char} :
    IsVerbatim cs ↔ IsUnescaped cs ∧ (cs.all fun c => 32 ≤ c.toNat) = true := by
  simp only [List.all_eq_true, decide_eq_true_eq]
  exact ⟨fun h => ⟨h.unescaped, h.printable⟩, fun h => ⟨h.1, h.2⟩⟩

instance (cs : List Char) : Decidable (IsVerbatim cs) := decidable_of_iff _ isVerbatim_iff.symm

theorem IsUnescaped.isVerbatim_iff {cs : List Char} (h : IsUnescaped cs) :
    IsVerbatim cs ↔ ∀ c ∈ cs, 32 ≤ c.toNat :=
  ⟨IsVerbatim.printable, fun hPrintable => ⟨h, hPrintable⟩⟩

/-- A literal without escapes is read to its end exactly if it has no control character. -/
theorem pieces_append {read : List Piece} {cs rest : List Char} (h : IsUnescaped cs) :
    pieces read (cs ++ '"' :: rest) =
      if IsVerbatim cs then some ((cs.map Piece.char).reverse ++ read, rest) else none := by
  induction cs generalizing read with
  | nil => rfl
  | cons c cs ih =>
      have hRest : IsUnescaped cs :=
        ⟨mt (List.mem_cons_of_mem c) h.1, mt (List.mem_cons_of_mem c) h.2⟩
      have hQuote : c ≠ '"' := fun hSame => h.1 (hSame ▸ List.mem_cons_self)
      have hSlash : c ≠ '\\' := fun hSame => h.2 (hSame ▸ List.mem_cons_self)
      have hVerbatim : IsVerbatim (c :: cs) ↔ 32 ≤ c.toNat ∧ IsVerbatim cs := by
        rw [h.isVerbatim_iff, hRest.isVerbatim_iff, List.forall_mem_cons]
      rw [List.cons_append, pieces]
      · by_cases hControl : c.toNat < 32
        · have hBad : ¬IsVerbatim (c :: cs) := fun hAll =>
            absurd (hVerbatim.mp hAll).1 (Nat.not_le.mpr hControl)
          rw [if_pos hControl, if_neg hBad]
        · rw [if_neg hControl, ih hRest]
          simp [hVerbatim, Nat.not_lt.mp hControl]
      -- Neither of the special characters stands in front.
      · exact hQuote
      · exact fun _ _ _ _ _ hSame _ => hSlash hSame
      · exact fun _ _ hSame _ => hSlash hSame

theorem joinPieces_map_char (text : List Char) (paired : Bool) (cs : List Char) :
    joinPieces text paired (cs.map Piece.char) = (cs.reverse ++ text, paired) := by
  induction cs generalizing text with
  | nil => rfl
  | cons c cs ih => rw [List.map_cons, joinPieces, ih, List.reverse_cons, List.append_assoc]; rfl

theorem stringBody_append {cs rest : List Char} (h : IsUnescaped cs) :
    stringBody (cs ++ '"' :: rest) =
      if IsVerbatim cs then some (String.ofList cs, true, rest) else none := by
  rw [stringBody, pieces_append h]
  split
  · rw [List.append_nil, ← List.map_reverse, Option.map_some]
    simp only [joinPieces_map_char, List.reverse_reverse, List.append_nil]
  · rfl

theorem stringBody_verbatim {s : String} {rest : List Char} (h : IsVerbatim s.toList) :
    stringBody (s.toList ++ '"' :: rest) = some (s, true, rest) := by
  rw [stringBody_append h.unescaped, if_pos h, String.ofList_toList]

/-! ### Lines -/

/-- A text that is read as a value, where the line ends after it. -/
def Reads (text : List Char) (json : Json) : Prop :=
  ∀ fuel c rest, c = ',' ∨ c = '\n' →
    value (fuel + 1) false (text ++ c :: rest) = some (json, c :: rest)

theorem reads_str {s : String} (h : IsVerbatim s.toList) :
    Reads ('"' :: (s.toList ++ ['"'])) (.str s) := by
  intro fuel c rest _
  rw [List.cons_append, List.append_assoc]
  change (stringBody (s.toList ++ '"' :: c :: rest)).map _ = _
  rw [stringBody_verbatim h]
  rfl

/-- A line that writes a member: its key, and a text that is read as its value. -/
def IsLine (line : String) (member : String × Json) : Prop :=
  ∃ text, line.toList = '"' :: (member.1.toList ++ '"' :: ':' :: ' ' :: text) ∧
    IsVerbatim member.1.toList ∧ Reads text member.2

theorem isLine_str {line key s : String} (hKey : IsVerbatim key.toList) (h : IsVerbatim s.toList)
    (hLine : line.toList =
      '"' :: (key.toList ++ '"' :: ':' :: ' ' :: '"' :: (s.toList ++ ['"']))) :
    IsLine line (key, .str s) :=
  ⟨_, hLine, hKey, reads_str h⟩

theorem toList_strLine (key s : String) :
    ("\"" ++ key ++ "\": \"" ++ s ++ "\"").toList =
      '"' :: (key.toList ++ '"' :: ':' :: ' ' :: '"' :: (s.toList ++ ['"'])) := by
  have hQuote : "\"".toList = ['"'] := by decide
  have hColon : "\": \"".toList = ['"', ':', ' ', '"'] := by decide
  simp only [String.toList_append, List.append_assoc, hQuote, hColon, List.cons_append,
    List.nil_append]

/-- After a key, the reader goes on with the value. -/
theorem members_key {key : String} {fuel : Nat} {cs : List Char} (hKey : IsVerbatim key.toList) :
    members (fuel + 1) true ('"' :: (key.toList ++ '"' :: ':' :: cs)) =
      match value fuel false cs with
      | none => none
      | some (json, rest) =>
        match skipBlanks rest with
        | ',' :: rest =>
          (members fuel true rest).map fun (more, rest) => ((key, json) :: more, rest)
        | '\x7d' :: rest => some ([(key, json)], rest)
        | _ => none := by
  have hQuote (cs : List Char) : skipBlanks ('"' :: cs) = '"' :: cs := rfl
  have hColon (cs : List Char) : skipBlanks (':' :: cs) = ':' :: cs := rfl
  have hRead := members.eq_def (fuel + 1) true ('"' :: (key.toList ++ '"' :: ':' :: cs))
  simp only [hQuote, stringBody_verbatim hKey, hColon, Bool.not_true, Bool.and_false,
    Bool.false_eq_true, if_false] at hRead
  exact hRead

/-- The reader takes a line and then looks at what ends it. -/
theorem members_line {line : String} {member : String × Json} {fuel : Nat} {c : Char}
    {rest : List Char} (h : IsLine line member) (hEnd : c = ',' ∨ c = '\n') :
    members (fuel + 2) true (line.toList ++ c :: rest) =
      match skipBlanks (c :: rest) with
      | ',' :: rest =>
        (members (fuel + 1) true rest).map fun (more, rest) => (member :: more, rest)
      | '\x7d' :: rest => some ([member], rest)
      | _ => none := by
  obtain ⟨text, hLine, hKey, hText⟩ := h
  have hValue : value (fuel + 1) false (' ' :: (text ++ c :: rest)) =
      some (member.2, c :: rest) := hText fuel c rest hEnd
  have hChars : line.toList ++ c :: rest =
      '"' :: (member.1.toList ++ '"' :: ':' :: ' ' :: (text ++ c :: rest)) := by
    rw [hLine]
    simp
  rw [hChars, members_key hKey, hValue]

/-- Lines begin with a quotation mark. -/
theorem IsLine.exists_tail {line : String} {member : String × Json} (h : IsLine line member) :
    ∃ cs, line.toList = '"' :: cs := by
  obtain ⟨text, hLine, -⟩ := h
  exact ⟨_, hLine⟩

/-! ### Objects -/

/-- What writes some members: their lines, with commas and any blanks between them. -/
inductive AreMembers : List Char → List (String × Json) → Prop where
  | last {line : String} {member : String × Json} (h : IsLine line member) :
      AreMembers line.toList [member]
  | more {line : String} {member : String × Json} {cs : List Char} {all : List (String × Json)}
      (blanks : List Char) (hBlanks : skipBlanks blanks = []) (h : IsLine line member)
      (hRest : AreMembers cs all) :
      AreMembers (line.toList ++ ',' :: (blanks ++ cs)) (member :: all)

/-- Blanks in front of the members are passed over. -/
theorem members_blanks {fuel : Nat} {blanks cs : List Char} (h : skipBlanks blanks = []) :
    members fuel true (blanks ++ cs) = members fuel true cs := by
  have hSkip : skipBlanks (blanks ++ cs) = skipBlanks cs :=
    List.dropWhile_append_of_pos (List.dropWhile_eq_nil_iff.mp h)
  cases fuel with
  | zero => rfl
  | succ fuel => rw [members, members, hSkip]

namespace AreMembers

variable {cs rest : List Char} {all : List (String × Json)} {lines : List String}

theorem intercalate (h : List.Forall₂ IsLine lines all) (hSome : lines ≠ []) :
    AreMembers (String.intercalate ",\n  " lines).toList all := by
  induction h with
  | nil => exact absurd rfl hSome
  | @cons line member lines all hLine hLines ih =>
      cases hLines with
      | nil =>
          rw [String.intercalate_singleton]
          exact .last hLine
      | cons hNext hOthers =>
          rw [String.intercalate_cons_cons, String.toList_append, String.toList_append,
            List.append_assoc]
          exact .more ['\n', ' ', ' '] rfl hLine (ih (List.cons_ne_nil _ _))

theorem length_le (h : AreMembers cs all) : all.length ≤ cs.length := by
  induction h with
  | last h =>
      obtain ⟨tail, hLine⟩ := h.exists_tail
      simp [hLine]
  | more blanks hBlanks h hRest ih =>
      simp only [List.length_cons, List.length_append]
      omega

theorem exists_tail (h : AreMembers cs all) : ∃ tail, cs = '"' :: tail := by
  cases h with
  | last h => exact h.exists_tail
  | more blanks hBlanks h hRest =>
      obtain ⟨tail, hLine⟩ := h.exists_tail
      exact ⟨_, by rw [hLine, List.cons_append]⟩

/-- The reader finds the members that were written, up to the closing brace. -/
theorem members_eq (h : AreMembers cs all) (fuel : Nat) (rest : List Char) :
    members (fuel + all.length + 1) true (cs ++ '\n' :: '\x7d' :: rest) = some (all, rest) := by
  induction h with
  | last h => exact members_line h (.inr rfl)
  | more blanks hBlanks h hRest ih =>
      rw [List.append_assoc, List.cons_append, List.append_assoc]
      refine (members_line h (.inl rfl)).trans ?_
      change (members _ true (blanks ++ _)).map _ = _
      rw [members_blanks hBlanks]
      exact congrArg (Option.map _) ih

end AreMembers

/-- What the reader makes of a text in braces that begins with a key. -/
theorem ofChars?_brace (cs : List Char) :
    ofChars? ('\x7b' :: '\n' :: ' ' :: ' ' :: '"' :: cs) =
      match members (2 * cs.length + 11) true ('"' :: cs) with
      | some (all, rest) => if skipBlanks rest = [] then some (.obj all) else none
      | none => none := by
  have hFuel : 2 * ('\x7b' :: '\n' :: ' ' :: ' ' :: '"' :: cs).length + 2 =
      2 * cs.length + 11 + 1 := by
    simp only [List.length_cons]
    omega
  have hValue : value (2 * cs.length + 11 + 1) true ('\x7b' :: '\n' :: ' ' :: ' ' :: '"' :: cs) =
      (members (2 * cs.length + 11) true ('"' :: cs)).map fun (all, rest) => (.obj all, rest) := rfl
  rw [ofChars?, hFuel, hValue]
  cases members (2 * cs.length + 11) true ('"' :: cs) <;> rfl

/-- An object is read as the members that were written. -/
theorem ofChars?_members {cs : List Char} {all : List (String × Json)} (h : AreMembers cs all) :
    ofChars? ('\x7b' :: '\n' :: ' ' :: ' ' :: (cs ++ ['\n', '\x7d', '\n'])) = some (.obj all) := by
  obtain ⟨tail, rfl⟩ := h.exists_tail
  have hCount := h.length_le
  rw [List.length_cons] at hCount
  obtain ⟨fuel, hFuel⟩ : ∃ fuel, 2 * (tail ++ ['\n', '\x7d', '\n']).length + 11 =
      fuel + all.length + 1 := by
    refine ⟨2 * (tail ++ ['\n', '\x7d', '\n']).length + 11 - (all.length + 1), ?_⟩
    rw [List.length_append]
    omega
  have hMembers := h.members_eq fuel ['\n']
  rw [← hFuel, List.cons_append] at hMembers
  rw [List.cons_append, ofChars?_brace, hMembers]
  rfl

/-- A control character in the first value makes the object unreadable. -/
theorem ofChars?_eq_none {key : String} {cs rest : List Char} (hKey : IsVerbatim key.toList)
    (h : IsUnescaped cs) (hControl : ¬IsVerbatim cs) :
    ofChars? ('\x7b' :: '\n' :: ' ' :: ' ' :: '"' :: (key.toList ++ '"' :: ':' :: ' ' :: '"' ::
      (cs ++ '"' :: rest))) = none := by
  have hValue (fuel : Nat) : value fuel false (' ' :: '"' :: (cs ++ '"' :: rest)) = none := by
    cases fuel with
    | zero => rfl
    | succ fuel =>
        change (stringBody (cs ++ '"' :: rest)).map _ = none
        rw [stringBody_append h, if_neg hControl]
        rfl
  rw [ofChars?_brace, members_key hKey, hValue]

end Blueprint.Json
