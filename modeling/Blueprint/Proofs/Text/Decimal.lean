import Blueprint.Text.Decimal
import Mathlib.Data.List.Basic
import Mathlib.Data.List.Induction

/-! Decimal digits and the numbers that they write. A number is written by exactly one list of
digits without a needless zero in front, which is the one that the standard printer gives. -/

namespace Blueprint.Text

variable {c : Char} {cs : List Char} {n : Nat}

theorem isDigit_iff : isDigit c = true ↔ 48 ≤ c.toNat ∧ c.toNat ≤ 57 := by
  simp only [isDigit, Bool.and_eq_true, decide_eq_true_eq, Char.le_def, UInt32.le_iff_toNat_le]
  rfl

theorem hexValue_of_isDigit (h : isDigit c = true) : hexValue c = c.toNat - '0'.toNat :=
  if_pos h

theorem digitChar_hexValue (h : isDigit c = true) : Nat.digitChar (hexValue c) = c := by
  obtain ⟨hLow, hHigh⟩ := isDigit_iff.mp h
  have hZero : '0'.toNat = 48 := rfl
  rw [hexValue_of_isDigit h, ← Char.toNat_inj, Nat.toNat_digitChar_of_lt_ten (by omega)]
  omega

theorem digitsValue_concat (base : Nat) (cs : List Char) (c : Char) :
    digitsValue base (cs ++ [c]) = digitsValue base cs * base + hexValue c := by
  rw [digitsValue, List.foldl_append]
  rfl

theorem isDigit_of_mem_toDigits (h : c ∈ Nat.toDigits 10 n) : isDigit c = true := by
  have hDigit := Nat.isDigit_of_mem_toDigits (by decide) (by decide) h
  exact isDigit_iff.mpr (Char.isDigit_iff_toNat.mp hDigit)

theorem digitsValue_toDigits (n : Nat) : digitsValue 10 (Nat.toDigits 10 n) = n := by
  have hDigit (d : Nat) (hd : d < 10) : hexValue d.digitChar = d := by
    have hMem : d.digitChar ∈ Nat.toDigits 10 d := by
      rw [Nat.toDigits_of_lt_base hd]
      exact List.mem_singleton_self _
    rw [hexValue_of_isDigit (isDigit_of_mem_toDigits hMem)]
    exact Nat.toNat_digitChar_sub_48_of_lt_ten hd
  induction n using Nat.base_induction 10 (by decide) with
  | single m hm =>
      rw [Nat.toDigits_of_lt_base hm, ← List.nil_append [m.digitChar], digitsValue_concat,
        hDigit m hm]
      exact Nat.zero_add m
  | digit m k hk hm ih =>
      rw [← Nat.toDigits_append_toDigits (by decide) hm hk, Nat.toDigits_of_lt_base hk,
        digitsValue_concat, ih, hDigit k hk, Nat.mul_comm]

/-- Only zero is written with a zero in front. -/
theorem eq_zero_of_head?_toDigits (h : (Nat.toDigits 10 n).head? = some '0') : n = 0 := by
  induction n using Nat.base_induction 10 (by decide) with
  | single m hm =>
      rw [Nat.toDigits_of_lt_base hm, List.head?_cons, Option.some.injEq] at h
      exact Nat.digitChar_eq_zero.mp h
  | digit m k hk hm ih =>
      rw [← Nat.toDigits_append_toDigits (by decide) hm hk,
        List.head?_append_of_ne_nil _ Nat.toDigits_ne_nil] at h
      exact absurd (ih h) (Nat.ne_of_gt hm)

/-- Digits without a needless zero in front are the ones of the number that they write. The
induction is on the digits from the last one on. -/
theorem toDigits_digitsValue (hSome : cs ≠ []) (hDigits : ∀ c ∈ cs, isDigit c = true)
    (hZero : cs.length = 1 ∨ cs.head? ≠ some '0') : Nat.toDigits 10 (digitsValue 10 cs) = cs := by
  induction cs using List.reverseRecOn with
  | nil => exact absurd rfl hSome
  | append_singleton front last ih =>
      obtain ⟨hFront, hLast⟩ := List.forall_mem_append.mp hDigits
      have hLast := hLast last (List.mem_singleton_self last)
      have hSmall : hexValue last < 10 := by
        obtain ⟨-, hHigh⟩ := isDigit_iff.mp hLast
        have hCode : '0'.toNat = 48 := rfl
        rw [hexValue_of_isDigit hLast]
        omega
      by_cases hNil : front = []
      · subst hNil
        have hValue : digitsValue 10 ([] ++ [last]) = hexValue last :=
          (digitsValue_concat 10 [] last).trans (Nat.zero_add _)
        rw [hValue, Nat.toDigits_of_lt_base hSmall, digitChar_hexValue hLast]
        rfl
      · have hHead : front.head? ≠ some '0' := by
          rw [← List.head?_append_of_ne_nil _ hNil]
          refine hZero.resolve_left fun hLength => ?_
          have hPositive := List.length_pos_iff.mpr hNil
          rw [List.length_append, List.length_singleton] at hLength
          omega
        have hPart := ih hNil hFront (.inr hHead)
        have hPositive : 0 < digitsValue 10 front := by
          refine Nat.pos_of_ne_zero fun hValue => hHead ?_
          rw [← hPart, hValue]
          rfl
        rw [digitsValue_concat, Nat.mul_comm,
          ← Nat.toDigits_append_toDigits (by decide) hPositive hSmall, hPart,
          Nat.toDigits_of_lt_base hSmall, digitChar_hexValue hLast]

theorem exists_sign (cs : List Char) : ∃ sign ∈ [[], ['+']], cs = sign ++ unsignedDigits cs := by
  rw [unsignedDigits.eq_def]
  split
  next rest => exact ⟨['+'], by decide, rfl⟩
  next => exact ⟨[], by decide, rfl⟩

/-- Digits do not begin with a sign. -/
theorem unsignedDigits_append {sign digits : List Char} (hSign : sign ∈ [[], ['+']])
    (hDigits : ∀ c ∈ digits, isDigit c = true) : unsignedDigits (sign ++ digits) = digits := by
  rcases List.mem_pair.mp hSign with rfl | rfl
  · rw [List.nil_append, unsignedDigits.eq_def]
    split
    next rest => exact absurd (hDigits '+' List.mem_cons_self) (by decide)
    next => rfl
  · rfl

/-- A small number is written by digits, with a plus sign in front or without one. -/
theorem decimalChars?_eq_some_iff {limit : Nat} :
    decimalChars? limit cs = some n ↔
      ∃ sign ∈ [[], ['+']], ∃ digits : List Char, digits ≠ [] ∧
        (∀ c ∈ digits, isDigit c = true) ∧ digitsValue 10 digits = n ∧ n ≤ limit ∧
        cs = sign ++ digits := by
  simp only [decimalChars?, List.all_eq_true, Option.ite_none_right_eq_some, Option.some.injEq]
  constructor
  · rintro ⟨⟨hSome, hDigits, hMost⟩, hValue⟩
    obtain ⟨sign, hSign, hText⟩ := exists_sign cs
    exact ⟨sign, hSign, _, hSome, hDigits, hValue, hValue ▸ hMost, hText⟩
  · rintro ⟨sign, hSign, digits, hSome, hDigits, hValue, hMost, rfl⟩
    rw [unsignedDigits_append hSign hDigits]
    exact ⟨⟨hSome, hDigits, hValue ▸ hMost⟩, hValue⟩

end Blueprint.Text
