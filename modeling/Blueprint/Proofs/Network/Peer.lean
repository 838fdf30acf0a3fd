import Blueprint.Network.Peer
import Blueprint.Proofs.Network.Address

/-! What may stand in the list of ingress sources. The reader of peers takes exactly the texts of a
grammar, each as a peer of one kind, and a peer is displayed as it was written. Address ranges are
read with a plus sign in front of the number of bits, too, which their notation does not have. -/

namespace Blueprint.Peer

open Text Address

/-- A kind and some hexadecimal digits. -/
def IsIdText (kind s : String) : Prop :=
  ∃ digits : String, digits ≠ "" ∧ (∀ c ∈ digits.toList, isHex c = true) ∧ s = kind ++ digits

/-- An address, a slash, and how many bits of the address matter, in decimal digits after one of
some signs. -/
def IsRangeText (IsAddress : String → Prop) (signs : List String) (most : Nat)
    (s : String) : Prop :=
  ∃ address sign digits : String, IsAddress address ∧ sign ∈ signs ∧
    digits ≠ "" ∧ (∀ c ∈ digits.toList, isDigit c = true) ∧ digitsValue 10 digits.toList ≤ most ∧
    s = address ++ "/" ++ (sign ++ digits)

/-- The text of a peer is one of its kind. -/
def IsWritten (signs : List String) : Peer → Prop
  | .ipv4 s => IsRangeText IsV4Text signs 32 s
  | .ipv6 s => IsRangeText IsV6Text signs 128 s
  | .securityGroup s => IsIdText "sg-" s
  | .prefixList s => IsIdText "pl-" s

variable {IsAddress : String → Prop} {signs : List String} {most : Nat} {s : String} {peer : Peer}

theorem isIdText_iff {kind : String} :
    IsIdText kind s ↔ ∃ suffix, afterChars kind.toList s.toList = some suffix ∧
      isIdSuffix suffix = true := by
  simp only [afterChars_eq_some_iff, isIdSuffix, Bool.and_eq_true, decide_eq_true_eq,
    List.all_eq_true]
  constructor
  · rintro ⟨digits, hSome, hDigits, rfl⟩
    exact ⟨digits.toList, String.toList_append, mt String.toList_eq_nil_iff.mp hSome, hDigits⟩
  · rintro ⟨suffix, hText, hSome, hDigits⟩
    refine ⟨String.ofList suffix, by simpa using hSome, by simpa using hDigits, ?_⟩
    rw [← String.toList_inj, hText, String.toList_append, String.toList_ofList]

/-- Where an address is told by `isAddress`, the texts of its ranges are told by the two sides of
the first slash. -/
theorem isRangeText_iff {isAddress : List Char → Bool}
    (hAddress : ∀ {s : String}, isAddress s.toList = true ↔ IsAddress s)
    (hSlash : ∀ {s : String}, IsAddress s → '/' ∉ s.toList) (hMost : most ≤ 255) :
    IsRangeText IsAddress ["", "+"] most s ↔
      ∃ address length bits, cutChars '/' s.toList = some (address, length) ∧
        decimalChars? 255 length = some bits ∧ isAddress address = true ∧ bits ≤ most := by
  simp only [cutChars_eq_some_iff, decimalChars?_eq_some_iff]
  constructor
  · rintro ⟨address, sign, digits, hText, hSign, hSome, hDigits, hBits, rfl⟩
    refine ⟨address.toList, (sign ++ digits).toList, _, ⟨hSlash hText, by simp⟩,
      ⟨sign.toList, ?_, digits.toList, mt String.toList_eq_nil_iff.mp hSome, hDigits, rfl,
        hBits.trans hMost, String.toList_append⟩, hAddress.mpr hText, hBits⟩
    exact List.mem_map_of_mem hSign
  · rintro ⟨address, length, bits, ⟨-, hText⟩,
      ⟨sign, hSign, digits, hSome, hDigits, rfl, -, rfl⟩, hIs, hBits⟩
    refine ⟨String.ofList address, String.ofList sign, String.ofList digits,
      hAddress.mp (by rwa [String.toList_ofList]), List.mem_map_of_mem hSign, by simpa using hSome,
      by simpa using hDigits, by simpa using hBits, ?_⟩
    rw [← String.toList_inj, hText]
    simp

theorem slash_not_mem (h : ∀ c ∈ s.toList, IsAddressChar c) : '/' ∉ s.toList :=
  fun hSlash => absurd (h '/' hSlash) (by decide)

theorem isRangeText_ipv4 :
    IsRangeText IsV4Text ["", "+"] 32 s ↔
      ∃ address length bits, cutChars '/' s.toList = some (address, length) ∧
        decimalChars? 255 length = some bits ∧ isV4 address = true ∧ bits ≤ 32 :=
  isRangeText_iff isV4_iff (fun h => slash_not_mem h.isAddressChar) (by decide)

theorem isRangeText_ipv6 :
    IsRangeText IsV6Text ["", "+"] 128 s ↔
      ∃ address length bits, cutChars '/' s.toList = some (address, length) ∧
        decimalChars? 255 length = some bits ∧ isV6 address = true ∧ bits ≤ 128 :=
  isRangeText_iff isV6_iff (fun h => slash_not_mem h.isAddressChar) (by decide)

theorem refuse_ne_ok {reason : String} : refuse reason ≠ .ok peer := nofun

theorem parseRange_eq_ok_iff :
    parseRange s = .ok peer ↔
      (.ipv4 s = peer ∧ IsRangeText IsV4Text ["", "+"] 32 s) ∨
        (.ipv6 s = peer ∧ IsRangeText IsV6Text ["", "+"] 128 s) := by
  rw [isRangeText_ipv4, isRangeText_ipv6, parseRange]
  split
  next hNone => simp [hNone, refuse_ne_ok]
  next address length hCut =>
    split
    next hNone => simp [hCut, hNone, refuse_ne_ok]
    next bits hBits =>
      by_cases hV4 : isV4 address = true
      · by_cases hMost : bits ≤ 32
        · simp [hCut, hBits, hV4, hMost, isV6_of_isV4 hV4]
        · simp [hCut, hBits, hV4, hMost, isV6_of_isV4 hV4, refuse_ne_ok]
      · by_cases hV6 : isV6 address = true ∧ bits ≤ 128
        · simp [hCut, hBits, hV4, hV6]
        · simp [hCut, hBits, hV4, hV6, refuse_ne_ok]

/-- An address range begins with its address, or with the slash. -/
theorem IsRangeText.exists_head (h : IsRangeText IsAddress signs most s)
    (hChars : ∀ {s : String}, IsAddress s → ∀ c ∈ s.toList, IsAddressChar c) :
    ∃ c rest, s.toList = c :: rest ∧ (IsAddressChar c ∨ c = '/') := by
  obtain ⟨address, sign, digits, hText, -, -, -, -, rfl⟩ := h
  rw [String.toList_append, String.toList_append, List.append_assoc]
  cases hAddress : address.toList with
  | nil => exact ⟨_, _, rfl, .inr rfl⟩
  | cons c rest => exact ⟨c, _, rfl, .inl (hChars hText c (by simp [hAddress]))⟩

theorem afterChars_eq_none {s c : Char} {start cs rest : List Char} (hText : cs = c :: rest)
    (hOther : s ≠ c) : afterChars (s :: start) cs = none := by
  rw [hText, afterChars, if_neg hOther]

/-- No address range begins like an id. -/
theorem parseTrimmed_of_isRangeText (h : IsRangeText IsAddress signs most s)
    (hChars : ∀ {s : String}, IsAddress s → ∀ c ∈ s.toList, IsAddressChar c) :
    parseTrimmed s = parseRange s := by
  obtain ⟨c, rest, hText, hHead⟩ := h.exists_head hChars
  have hGroup : 's' ≠ c := by
    rintro rfl
    revert hHead
    decide
  have hList : 'p' ≠ c := by
    rintro rfl
    revert hHead
    decide
  rw [parseTrimmed, afterChars_eq_none hText hGroup, afterChars_eq_none hText hList]

theorem isWritten_of_parseTrimmed (h : parseTrimmed s = .ok peer) :
    peer.text = s ∧ peer.IsWritten ["", "+"] := by
  rw [parseTrimmed] at h
  split at h
  next suffix hAfter =>
    split at h
    next hSuffix =>
      cases h
      exact ⟨rfl, isIdText_iff.mpr ⟨suffix, hAfter, hSuffix⟩⟩
    next => cases h
  next =>
    split at h
    next suffix hAfter =>
      split at h
      next hSuffix =>
        cases h
        exact ⟨rfl, isIdText_iff.mpr ⟨suffix, hAfter, hSuffix⟩⟩
      next => cases h
    next =>
      rcases parseRange_eq_ok_iff.mp h with ⟨rfl, hRange⟩ | ⟨rfl, hRange⟩
      · exact ⟨rfl, hRange⟩
      · exact ⟨rfl, hRange⟩

theorem parseTrimmed_of_isWritten (h : peer.IsWritten ["", "+"]) :
    parseTrimmed peer.text = .ok peer := by
  cases peer with
  | ipv4 s =>
      exact (parseTrimmed_of_isRangeText h IsV4Text.isAddressChar).trans
        (parseRange_eq_ok_iff.mpr (.inl ⟨rfl, h⟩))
  | ipv6 s =>
      exact (parseTrimmed_of_isRangeText h IsV6Text.isAddressChar).trans
        (parseRange_eq_ok_iff.mpr (.inr ⟨rfl, h⟩))
  | securityGroup s =>
      obtain ⟨suffix, hAfter, hSuffix⟩ := isIdText_iff.mp h
      have hGroup : afterChars ['s', 'g', '-'] s.toList = some suffix := hAfter
      simp [parseTrimmed, text, hGroup, hSuffix]
  | prefixList s =>
      obtain ⟨suffix, hAfter, hSuffix⟩ := isIdText_iff.mp h
      have hList : afterChars ['p', 'l', '-'] s.toList = some suffix := hAfter
      have hGroup : afterChars ['s', 'g', '-'] s.toList = none :=
        afterChars_eq_none (afterChars_eq_some_iff.mp hAfter) (by decide)
      simp [parseTrimmed, text, hGroup, hList, hSuffix]

theorem parse_eq_ok_iff {source : String} :
    parse source = .ok peer ↔ peer.text = trim source ∧ peer.IsWritten ["", "+"] := by
  refine ⟨isWritten_of_parseTrimmed, fun ⟨hText, hWritten⟩ => ?_⟩
  rw [parse, ← hText]
  exact parseTrimmed_of_isWritten hWritten

/-- A peer is displayed as it was written, without the blanks around it. -/
theorem text_of_parse {source : String} (h : parse source = .ok peer) :
    peer.text = trim source :=
  (parse_eq_ok_iff.mp h).1

theorem parse_text {source : String} (h : parse source = .ok peer) :
    parse peer.text = .ok peer := by
  rw [text_of_parse h, parse, trim_trim]
  exact h

/-! ### The sign -/

theorem isRangeText_unsigned_iff
    (hChars : ∀ {s : String}, IsAddress s → ∀ c ∈ s.toList, IsAddressChar c) :
    IsRangeText IsAddress [""] most s ↔
      IsRangeText IsAddress ["", "+"] most s ∧ '+' ∉ s.toList := by
  constructor
  · rintro ⟨address, sign, digits, hText, hSign, hSome, hDigits, hBits, rfl⟩
    obtain rfl := List.mem_singleton.mp hSign
    refine ⟨⟨address, "", digits, hText, List.mem_cons_self, hSome, hDigits, hBits, rfl⟩, ?_⟩
    have hAddress : '+' ∉ address.toList := fun hPlus => absurd (hChars hText _ hPlus) (by decide)
    have hCount : '+' ∉ digits.toList := fun hPlus => absurd (hDigits _ hPlus) (by decide)
    simp [hAddress, hCount]
  · rintro ⟨⟨address, sign, digits, hText, hSign, hSome, hDigits, hBits, rfl⟩, hPlain⟩
    refine ⟨address, sign, digits, hText, ?_, hSome, hDigits, hBits, rfl⟩
    rcases List.mem_pair.mp hSign with rfl | rfl
    · exact List.mem_singleton_self _
    · exact absurd (by simp) hPlain

theorem IsIdText.plus_not_mem {kind : String} (h : IsIdText kind s) (hKind : '+' ∉ kind.toList) :
    '+' ∉ s.toList := by
  obtain ⟨digits, -, hDigits, rfl⟩ := h
  rw [String.toList_append, List.mem_append, not_or]
  exact ⟨hKind, fun hPlus => absurd (hDigits _ hPlus) (by decide)⟩

/-- The texts without a sign are the ones that have no plus. -/
theorem isWritten_unsigned_iff :
    peer.IsWritten [""] ↔ peer.IsWritten ["", "+"] ∧ '+' ∉ peer.text.toList := by
  cases peer with
  | ipv4 s => exact isRangeText_unsigned_iff IsV4Text.isAddressChar
  | ipv6 s => exact isRangeText_unsigned_iff IsV6Text.isAddressChar
  | securityGroup s => exact (and_iff_left_of_imp fun h => h.plus_not_mem (by decide)).symm
  | prefixList s => exact (and_iff_left_of_imp fun h => h.plus_not_mem (by decide)).symm

/-- A source is read as a peer exactly if it is the text of one but for the blanks around it, where
a plus sign is let pass in front of the number of bits; without one it is written as the notation of
address ranges has it. A peer that has been read is displayed as a text that is read as the same. -/
theorem parse_iff_isWritten (source : String) :
    (∀ peer, parse source = .ok peer ↔ peer.text = trim source ∧ peer.IsWritten ["", "+"]) ∧
    (∀ peer, parse source = .ok peer ∧ '+' ∉ (trim source).toList ↔
      peer.text = trim source ∧ peer.IsWritten [""]) ∧
    ∀ peer, parse source = .ok peer → parse peer.text = .ok peer := by
  refine ⟨fun peer => parse_eq_ok_iff, fun peer => ?_, fun peer => parse_text⟩
  rw [parse_eq_ok_iff, and_assoc, isWritten_unsigned_iff]
  exact and_congr_right fun hText => by rw [hText]

/-- The plus sign is not part of the notation, yet it is read and kept. -/
theorem parse_signed :
    parse "10.0.0.0/+8" = .ok (.ipv4 "10.0.0.0/+8") ∧
      ¬∃ peer : Peer, peer.text = trim "10.0.0.0/+8" ∧ peer.IsWritten [""] := by
  refine ⟨by decide +kernel, ?_⟩
  rintro ⟨peer, hText, hWritten⟩
  have hPlain := (isWritten_unsigned_iff.mp hWritten).2
  rw [hText] at hPlain
  revert hPlain
  decide +kernel

end Blueprint.Peer
