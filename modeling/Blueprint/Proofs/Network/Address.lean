import Blueprint.Network.Address
import Blueprint.Proofs.Text
import Blueprint.Proofs.Text.Decimal
import Mathlib.Data.Set.List

/-! The texts of internet addresses, told by how they are put together: numbers with dots between
them, or groups with colons between them and at most one gap. What is accepted is what can be put
together in this way. The two versions have no text in common. -/

namespace Blueprint.Address

open Text

/-! ### Version 4 -/

/-- Four numbers up to 255 with dots between them. -/
def IsV4Text (s : String) : Prop :=
  ∃ octets : List (Fin 256), octets.length = 4 ∧
    s = String.intercalate "." (octets.map fun n => toString n.val)

theorem isOctet_iff {cs : List Char} :
    isOctet cs = true ↔ ∃ n : Fin 256, (toString n.val).toList = cs := by
  simp only [isOctet, Bool.and_eq_true, Bool.or_eq_true, decide_eq_true_eq, List.all_eq_true,
    Nat.toString_eq_repr, Nat.toList_repr]
  constructor
  · rintro ⟨⟨⟨⟨hSome, -⟩, hDigits⟩, hZero⟩, hMost⟩
    exact ⟨⟨_, Nat.lt_succ_of_le hMost⟩, toDigits_digitsValue hSome hDigits hZero⟩
  · rintro ⟨n, rfl⟩
    have hLength : (Nat.toDigits 10 n.val).length ≤ 3 :=
      (Nat.length_toDigits_le_iff (by decide) (by decide)).mpr (by omega)
    refine ⟨⟨⟨⟨Nat.toDigits_ne_nil, hLength⟩, fun c => isDigit_of_mem_toDigits⟩, ?_⟩, ?_⟩
    · by_cases hHead : (Nat.toDigits 10 n.val).head? = some '0'
      · rw [eq_zero_of_head?_toDigits hHead]
        exact .inl rfl
      · exact .inr hHead
    · rw [digitsValue_toDigits]
      exact Nat.le_of_lt_succ n.isLt

theorem isDigit_of_mem_toString {n : Nat} {c : Char} (h : c ∈ (toString n).toList) :
    isDigit c = true := by
  rw [Nat.toString_eq_repr, Nat.toList_repr] at h
  exact isDigit_of_mem_toDigits h

theorem isV4_iff {s : String} : isV4 s.toList = true ↔ IsV4Text s := by
  have hCut := splitChars_iff (fun parts =>
    parts.length = 4 ∧ ∀ part ∈ parts, isOctet part = true) '.' s
  simp only [isV4, Bool.and_eq_true, decide_eq_true_eq, List.all_eq_true]
  rw [hCut]
  constructor
  · rintro ⟨parts, -, -, hText, hLength, hOctets⟩
    have hNumbers : ∀ part ∈ parts, part ∈ Set.range fun n : Fin 256 => toString n.val := by
      intro part hMem
      obtain ⟨n, hPart⟩ := isOctet_iff.mp (hOctets _ (List.mem_map_of_mem hMem))
      exact ⟨n, String.toList_inj.mp hPart⟩
    obtain ⟨octets, rfl⟩ := (Set.range_list_map _).ge hNumbers
    rw [List.length_map, List.length_map] at hLength
    exact ⟨octets, hLength, hText⟩
  · rintro ⟨octets, hLength, hText⟩
    refine ⟨_, ?_, ?_, hText, by rwa [List.length_map, List.length_map], ?_⟩
    · rintro hNil
      rw [List.map_eq_nil_iff.mp hNil] at hLength
      cases hLength
    · refine List.forall_mem_map.mpr fun n _ hDot => ?_
      have hDigit := isDigit_of_mem_toString hDot
      revert hDigit
      decide
    · exact List.forall_mem_map.mpr (List.forall_mem_map.mpr fun n _ => isOctet_iff.mpr ⟨n, rfl⟩)

/-! ### Version 6 -/

/-- One to four hexadecimal digits. -/
structure IsGroupText (s : String) : Prop where
  nonempty : s ≠ ""
  length : s.length ≤ 4
  digits : ∀ c ∈ s.toList, isHex c

/-- Parts that stand for `n` groups: each of them is one, but for a version 4 address at the end,
which stands for two and is let in where `closing` is set. -/
def StandFor (closing : Bool) (parts : List String) (n : Nat) : Prop :=
  (parts.length = n ∧ ∀ part ∈ parts, IsGroupText part) ∨
    closing = true ∧ ∃ (groups : List String) (address : String), groups.length + 2 = n ∧
      (∀ group ∈ groups, IsGroupText group) ∧ IsV4Text address ∧ parts = groups ++ [address]

/-- Parts that stand for `n` groups, with colons between them. -/
def IsGroups (closing : Bool) (n : Nat) (s : String) : Prop :=
  ∃ parts, StandFor closing parts n ∧ s = String.intercalate ":" parts

/-- Eight groups, or at most seven and two colons in the place of the others. -/
def IsV6Text (s : String) : Prop :=
  IsGroups true 8 s ∨
    ∃ m n before after, m + n ≤ 7 ∧ IsGroups false m before ∧ IsGroups true n after ∧
      s = before ++ "::" ++ after

variable {closing : Bool} {parts : List String} {n : Nat} {s : String}

theorem isGroup_iff : isGroup s.toList = true ↔ IsGroupText s := by
  simp only [isGroup, Bool.and_eq_true, decide_eq_true_eq, List.all_eq_true, ne_eq,
    String.toList_eq_nil_iff, String.length_toList]
  exact ⟨fun ⟨⟨hSome, hLength⟩, hDigits⟩ => ⟨hSome, hLength, hDigits⟩,
    fun h => ⟨⟨h.nonempty, h.length⟩, h.digits⟩⟩

/-- A version 4 address is no group, because of its dots. -/
theorem isGroup_of_isV4 {cs : List Char} (h : isV4 cs = true) : isGroup cs = false := by
  have hDot : '.' ∈ cs := by
    by_contra hFree
    rw [isV4, splitChars_of_not_mem hFree] at h
    cases h
  refine Bool.eq_false_iff.mpr fun hGroup => ?_
  rw [isGroup, Bool.and_eq_true, List.all_eq_true] at hGroup
  have hHex := hGroup.2 '.' hDot
  revert hHex
  decide

theorem standFor_nil : StandFor closing [] n ↔ 0 = n := by
  simp [StandFor]

theorem standFor_singleton {part : String} :
    StandFor closing [part] n ↔
      (1 = n ∧ IsGroupText part) ∨ closing = true ∧ 2 = n ∧ IsV4Text part := by
  refine or_congr (by simp) (and_congr_right fun _ => ?_)
  constructor
  · rintro ⟨groups, address, rfl, -, hAddress, hParts⟩
    rcases List.append_eq_singleton_iff.mp hParts.symm with ⟨rfl, hLast⟩ | ⟨-, hNone⟩
    · exact ⟨rfl, List.singleton_inj.mp hLast ▸ hAddress⟩
    · cases hNone
  · rintro ⟨rfl, hAddress⟩
    exact ⟨[], part, rfl, by simp, hAddress, rfl⟩

theorem standFor_cons_cons {part next : String} {others : List String} :
    StandFor closing (part :: next :: others) n ↔
      IsGroupText part ∧ ∃ m, StandFor closing (next :: others) m ∧ m + 1 = n := by
  constructor
  · rintro (⟨rfl, hGroups⟩ | ⟨hClosing, groups, address, rfl, hGroups, hAddress, hParts⟩)
    · obtain ⟨hFirst, hRest⟩ := List.forall_mem_cons.mp hGroups
      exact ⟨hFirst, _, .inl ⟨rfl, hRest⟩, rfl⟩
    · obtain _ | ⟨first, rest⟩ := groups
      · cases hParts
      · obtain ⟨hFirst, hRest⟩ := List.forall_mem_cons.mp hGroups
        obtain ⟨rfl, hOthers⟩ := List.cons.inj hParts
        exact ⟨hFirst, _, .inr ⟨hClosing, rest, address, rfl, hRest, hAddress, hOthers⟩,
          Nat.add_right_comm _ _ _⟩
  · rintro ⟨hFirst, m, ⟨rfl, hGroups⟩ |
      ⟨hClosing, groups, address, rfl, hGroups, hAddress, hParts⟩, rfl⟩
    · exact .inl ⟨rfl, List.forall_mem_cons.mpr ⟨hFirst, hGroups⟩⟩
    · exact .inr ⟨hClosing, part :: groups, address, Nat.add_right_comm _ _ _,
        List.forall_mem_cons.mpr ⟨hFirst, hGroups⟩, hAddress, by rw [hParts]; rfl⟩

/-- The induction is on the parts; only the last one may be more than one group. -/
theorem groupCount?_eq_some_iff :
    groupCount? closing (parts.map String.toList) = some n ↔ StandFor closing parts n := by
  induction parts generalizing n with
  | nil => rw [standFor_nil, List.map_nil, groupCount?, Option.some.injEq]
  | cons part rest ih =>
      cases rest with
      | nil =>
          rw [standFor_singleton, ← isGroup_iff, ← isV4_iff, List.map_cons, List.map_nil,
            groupCount?]
          by_cases hGroup : isGroup part.toList = true
          · have hOther : isV4 part.toList ≠ true := fun hV4 => by
              rw [isGroup_of_isV4 hV4] at hGroup
              cases hGroup
            simp [hGroup, hOther]
          · simp [hGroup, and_left_comm, and_comm]
      | cons next others =>
          have hRest (m : Nat) := @ih m
          rw [List.map_cons] at hRest
          rw [standFor_cons_cons, ← isGroup_iff, List.map_cons, List.map_cons, groupCount?]
          · by_cases hGroup : isGroup part.toList = true
            · simp only [hGroup, if_true, Option.map_eq_some_iff, hRest, true_and]
            · simp [hGroup]
          · exact List.cons_ne_nil _ _

/-- What holds of groups and of version 4 addresses holds of every part. -/
theorem StandFor.forall_mem {P : String → Prop} (h : StandFor closing parts n)
    (hGroup : ∀ s, IsGroupText s → P s) (hAddress : ∀ s, IsV4Text s → P s) :
    ∀ part ∈ parts, P part := by
  obtain ⟨-, hParts⟩ | ⟨-, groups, address, -, hGroups, hV4, rfl⟩ := h
  · exact fun part hMem => hGroup part (hParts part hMem)
  · refine List.forall_mem_append.mpr ⟨fun group hMem => hGroup group (hGroups group hMem), ?_⟩
    exact List.forall_mem_singleton.mpr (hAddress address hV4)

theorem IsGroupText.colon_not_mem (h : IsGroupText s) : ':' ∉ s.toList := fun hColon =>
  absurd (h.digits ':' hColon) (by decide)

theorem IsV4Text.forall_mem (h : IsV4Text s) :
    ∀ c ∈ s.toList, isDigit c = true ∨ c = '.' := by
  obtain ⟨octets, -, rfl⟩ := h
  exact forall_mem_intercalate (by simp)
    (List.forall_mem_map.mpr fun n _ c hMem => .inl (isDigit_of_mem_toString hMem))

theorem IsV4Text.colon_not_mem (h : IsV4Text s) : ':' ∉ s.toList := fun hColon =>
  absurd (h.forall_mem ':' hColon) (by decide)

theorem IsV4Text.nonempty (h : IsV4Text s) : s ≠ "" := by
  rintro rfl
  exact absurd (isV4_iff.mpr h) (by decide)

theorem StandFor.colon_not_mem (h : StandFor closing parts n) :
    ∀ part ∈ parts, ':' ∉ part.toList :=
  h.forall_mem (fun _ => IsGroupText.colon_not_mem) fun _ => IsV4Text.colon_not_mem

theorem StandFor.nonempty (h : StandFor closing parts n) : ∀ part ∈ parts, part ≠ "" :=
  h.forall_mem (fun _ => IsGroupText.nonempty) fun _ => IsV4Text.nonempty

theorem StandFor.splitChars (h : StandFor closing parts n) (hSome : parts ≠ []) :
    splitChars ':' (String.intercalate ":" parts).toList = parts.map String.toList :=
  (splitChars_iff (· = parts.map String.toList) ':' _).mpr
    ⟨parts, hSome, h.colon_not_mem, rfl, rfl⟩

theorem groupsIn?_eq_some_iff :
    groupsIn? closing s.toList = some n ↔ IsGroups closing n s := by
  by_cases hEmpty : s = ""
  · subst hEmpty
    constructor
    · intro h
      exact ⟨[], standFor_nil.mpr (Option.some.inj h), rfl⟩
    · rintro ⟨_ | ⟨part, rest⟩, hParts, hText⟩
      · exact congrArg some (standFor_nil.mp hParts)
      · have hCut := hParts.splitChars (List.cons_ne_nil _ _)
        rw [← hText] at hCut
        have hPart := hParts.nonempty part List.mem_cons_self
        exact absurd (String.toList_eq_nil_iff.mp (List.cons.inj hCut).1.symm) hPart
  · have hChars : s.toList ≠ [] := mt String.toList_eq_nil_iff.mp hEmpty
    rw [groupsIn?, if_neg hChars,
      splitChars_iff (fun parts => groupCount? closing parts = some n) ':' s]
    constructor
    · rintro ⟨parts, -, -, hText, hCount⟩
      exact ⟨parts, groupCount?_eq_some_iff.mp hCount, hText⟩
    · rintro ⟨parts, hParts, hText⟩
      refine ⟨parts, ?_, hParts.colon_not_mem, hText, groupCount?_eq_some_iff.mpr hParts⟩
      rintro rfl
      exact hEmpty hText

/-! ### The gap -/

theorem eq_of_cutDoubled {cs before after : List Char}
    (h : cutDoubled cs = some (before, after)) : cs = before ++ ':' :: ':' :: after := by
  induction cs using cutDoubled.induct generalizing before with
  | case1 rest =>
      cases h
      rfl
  | case2 c rest hOther ih =>
      rw [cutDoubled] at h
      · obtain ⟨⟨start, rest'⟩, hRest, hPair⟩ := Option.map_eq_some_iff.mp h
        cases hPair
        rw [ih hRest]
        rfl
      · exact hOther
  | case3 => cases h

/-- Where no part but the first one is empty, there are no two colons in a row. -/
theorem cutDoubled_eq_none {cs : List Char} (h : [] ∉ (splitChars ':' cs).tail) :
    cutDoubled cs = none := by
  refine Option.eq_none_iff_forall_ne_some.mpr fun ⟨before, after⟩ hCut => h ?_
  obtain ⟨part, parts, hParts⟩ := List.exists_cons_of_ne_nil (splitChars_ne_nil ':' before)
  rw [eq_of_cutDoubled hCut, splitChars_append, hParts]
  exact List.mem_append_right _ List.mem_cons_self

theorem cutDoubled_append {before after : List Char} (h : [] ∉ (splitChars ':' before).tail) :
    cutDoubled (before ++ ':' :: ':' :: after) = some (before, after) := by
  induction before with
  | nil => rfl
  | cons c rest ih =>
      obtain ⟨part, parts, hParts⟩ := List.exists_cons_of_ne_nil (splitChars_ne_nil ':' rest)
      rw [splitChars] at h
      by_cases hColon : c = ':'
      · subst hColon
        rw [if_pos rfl, List.tail_cons] at h
        obtain _ | ⟨d, others⟩ := rest
        · exact absurd (List.mem_singleton_self _) h
        · have hChar : d ≠ ':' := by
            rintro rfl
            exact h List.mem_cons_self
          rw [List.cons_append, cutDoubled, ih fun hMem => h (List.mem_of_mem_tail hMem)]
          · rfl
          · rintro _ - hCons
            exact hChar (List.cons.inj hCons).1
      · rw [if_neg hColon, hParts] at h
        rw [List.cons_append, cutDoubled, ih (by rwa [hParts])]
        · rfl
        · exact fun _ hChar => absurd hChar hColon

theorem IsGroups.not_mem_tail (h : IsGroups closing n s) :
    [] ∉ (splitChars ':' s.toList).tail := by
  obtain ⟨parts, hParts, rfl⟩ := h
  by_cases hNil : parts = []
  · rw [hNil]
    exact List.not_mem_nil
  · rw [hParts.splitChars hNil]
    intro hMem
    obtain ⟨part, hPart, hEmpty⟩ := List.mem_map.mp (List.mem_of_mem_tail hMem)
    exact hParts.nonempty part hPart (String.toList_eq_nil_iff.mp hEmpty)

theorem isV6_iff : isV6 s.toList = true ↔ IsV6Text s := by
  constructor
  · intro h
    rw [isV6] at h
    split at h
    next hCut =>
      exact .inl (groupsIn?_eq_some_iff.mp (decide_eq_true_eq.mp h))
    next before after hCut =>
      split at h
      next m n hBefore hAfter =>
        rw [← String.toList_ofList (l := before), groupsIn?_eq_some_iff] at hBefore
        rw [← String.toList_ofList (l := after), groupsIn?_eq_some_iff] at hAfter
        refine .inr ⟨m, n, _, _, decide_eq_true_eq.mp h, hBefore, hAfter, ?_⟩
        rw [← String.toList_inj, eq_of_cutDoubled hCut]
        simp
      next => cases h
  · rintro (hGroups | ⟨m, n, before, after, hCount, hBefore, hAfter, rfl⟩)
    · rw [isV6, cutDoubled_eq_none hGroups.not_mem_tail]
      exact decide_eq_true_eq.mpr (groupsIn?_eq_some_iff.mpr hGroups)
    · have hChars : (before ++ "::" ++ after).toList =
          before.toList ++ ':' :: ':' :: after.toList := by simp
      rw [isV6, hChars, cutDoubled_append hBefore.not_mem_tail]
      simp only [groupsIn?_eq_some_iff.mpr hBefore, groupsIn?_eq_some_iff.mpr hAfter, hCount,
        decide_true]

/-! ### Both versions -/

/-- A text is an address of one version at most. -/
theorem isV6_of_isV4 {cs : List Char} (h : isV4 cs = true) : isV6 cs = false := by
  have hFree : ':' ∉ cs := by
    rw [← String.toList_ofList (l := cs), isV4_iff] at h
    simpa using h.colon_not_mem
  have hParts := splitChars_of_not_mem hFree
  have hSome : cs ≠ [] := by
    rintro rfl
    cases h
  rw [isV6, cutDoubled_eq_none (by rw [hParts]; exact List.not_mem_nil)]
  simp [groupsIn?, hSome, hParts, groupCount?, h, isGroup_of_isV4 h]

/-- The characters of addresses. -/
def IsAddressChar (c : Char) : Prop := isHex c = true ∨ c = '.' ∨ c = ':'
  deriving Decidable

theorem IsV4Text.isAddressChar (h : IsV4Text s) : ∀ c ∈ s.toList, IsAddressChar c := by
  intro c hMem
  rcases h.forall_mem c hMem with hDigit | hDot
  · exact .inl (by rw [isHex, hDigit]; rfl)
  · exact .inr (.inl hDot)

theorem IsGroups.isAddressChar (h : IsGroups closing n s) :
    ∀ c ∈ s.toList, IsAddressChar c := by
  obtain ⟨parts, hParts, rfl⟩ := h
  refine forall_mem_intercalate (by simp [IsAddressChar]) (hParts.forall_mem ?_ ?_)
  · exact fun s hGroup c hMem => .inl (hGroup.digits c hMem)
  · exact fun s => IsV4Text.isAddressChar

theorem IsV6Text.isAddressChar (h : IsV6Text s) : ∀ c ∈ s.toList, IsAddressChar c := by
  rcases h with hGroups | ⟨m, n, before, after, -, hBefore, hAfter, rfl⟩
  · exact hGroups.isAddressChar
  · rw [String.toList_append, String.toList_append]
    refine List.forall_mem_append.mpr ⟨List.forall_mem_append.mpr ⟨?_, ?_⟩, ?_⟩
    · exact hBefore.isAddressChar
    · simp [IsAddressChar]
    · exact hAfter.isAddressChar

end Blueprint.Address
