import Blueprint.Bounds
import Blueprint.Proofs.Template.Names
import Blueprint.Proofs.Text

/-! Identifiers that end in a number. Letters and digits take one byte each, so a number of
thirty-two binary digits leaves an identifier far below its greatest length, and two numbers give
two identifiers. -/

namespace Blueprint

theorem IsAlnum.byteCount {text : String} (h : IsAlnum text) :
    Text.byteCount text = text.toList.length :=
  Text.charsByteCount_eq_length fun _ hMem =>
    Text.utf8Size_of_isAlnum (List.all_eq_true.mp h _ hMem)

theorem IsAlnum.isResourceId {text : String} (h : IsAlnum text) (hText : text ≠ "")
    (hLength : text.toList.length ≤ 255) : IsResourceId text :=
  ⟨hText, by rwa [h.byteCount], h⟩

theorem isAlnum_toString (n : Nat) : IsAlnum (toString n) := by
  rw [IsAlnum, Nat.toString_eq_repr, Nat.toList_repr, List.all_eq_true]
  intro c hMem
  have hDigit := Nat.isDigit_of_mem_toDigits (by decide) (by decide) hMem
  rw [Char.isDigit_iff_toNat] at hDigit
  simp only [Text.isAlnum, Text.isDigit, Bool.or_eq_true, Bool.and_eq_true, decide_eq_true_eq,
    Char.le_def, UInt32.le_iff_toNat_le]
  exact .inr hDigit

theorem toString_injective : Function.Injective (toString : Nat → String) := by
  intro n m h
  have hDigits : Nat.toDigits 10 n = Nat.toDigits 10 m := by
    rw [← Nat.toList_repr, ← Nat.toList_repr]
    exact congrArg String.toList h
  rw [← Nat.ofDigitChars_toDigits (b := 10) (n := n) (by decide) (by decide), hDigits,
    Nat.ofDigitChars_toDigits (by decide) (by decide)]

theorem length_toString_le {n : Nat} (h : n ≤ Bounds.nat32) : (toString n).toList.length ≤ 10 := by
  rw [Nat.toString_eq_repr, Nat.toList_repr, Nat.length_toDigits_le_iff (by decide) (by decide)]
  exact Nat.lt_of_le_of_lt h (by decide)

/-- A greater number has at least as many digits. -/
theorem length_toString_mono {n m : Nat} (h : n ≤ m) :
    (toString n).length ≤ (toString m).length := by
  have hDigits (k : Nat) : (toString k).length = (Nat.toDigits 10 k).length := by
    rw [Nat.toString_eq_repr, ← String.length_toList, Nat.toList_repr]
  have hPositive : 0 < (Nat.toDigits 10 m).length :=
    List.length_pos_iff.mpr Nat.toDigits_ne_nil
  have hBound : m < 10 ^ (Nat.toDigits 10 m).length :=
    (Nat.length_toDigits_le_iff (by decide) hPositive).mp (Nat.le_refl _)
  rw [hDigits, hDigits, Nat.length_toDigits_le_iff (by decide) hPositive]
  exact Nat.lt_of_le_of_lt h hBound

/-- A stem of letters and digits, and a number behind it. -/
theorem isResourceId_numbered {stem : String} (hStem : IsAlnum stem)
    (hLength : stem.toList.length ≤ 200) {n : Nat} (h : n ≤ Bounds.nat32) :
    IsResourceId (stem ++ toString n) := by
  have hNumber := length_toString_le h
  refine (hStem.append (isAlnum_toString n)).isResourceId ?_ ?_
  · rw [Ne, ← String.toList_inj]
    simp
  · rw [String.toList_append, List.length_append]
    omega

theorem numbered_injective (stem : String) : Function.Injective fun n : Nat => stem ++ toString n :=
  fun _ _ h => toString_injective ((String.append_right_inj stem).mp h)

/-- Items that pass a test may stand between others that fail it. -/
theorem nodup_between {α : Type} {P : α → Prop} {before between after : List α}
    (hBetween : between.Nodup) (hPass : ∀ id ∈ between, P id) (hOthers : (before ++ after).Nodup)
    (hFail : ∀ id ∈ before ++ after, ¬ P id) : (before ++ between ++ after).Nodup := by
  have hPerm : (before ++ between ++ after).Perm ((before ++ after) ++ between) := by
    rw [List.append_assoc, List.append_assoc]
    exact List.perm_append_comm.append_left before
  refine hPerm.nodup_iff.mpr (List.nodup_append'.mpr ⟨hOthers, hBetween, ?_⟩)
  exact fun id hOther hMem => hFail id hOther (hPass id hMem)

theorem forall_between {α : Type} {Q : α → Prop} {before between after : List α}
    (hBetween : ∀ id ∈ between, Q id) (hOthers : ∀ id ∈ before ++ after, Q id) :
    ∀ id ∈ before ++ between ++ after, Q id := by
  rw [List.forall_mem_append] at hOthers ⊢
  rw [List.forall_mem_append]
  exact ⟨⟨hOthers.1, hBetween⟩, hOthers.2⟩

end Blueprint
