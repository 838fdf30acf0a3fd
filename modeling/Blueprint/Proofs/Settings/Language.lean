import Blueprint.Naming
import Blueprint.Proofs.Check
import Blueprint.Proofs.Text
import Blueprint.Region
import Blueprint.TaskSize

/-! The grammars of the configuration language. Each is stated by how a text is put together, apart
from the function that takes it to pieces, and the two are proved to agree. -/

namespace Blueprint

/-- A letter, then characters of a class. -/
def Naming.BeginsWithLetter (allowed : Char → Prop) (name : String) : Prop :=
  ∃ first rest, name.toList = first :: rest ∧ Text.isLetter first ∧ ∀ c ∈ rest, allowed c

/-- An identifier: a letter, then letters, digits and one further character, 63 at most. -/
def Naming.IsIdentifier (extra : Char) (name : String) : Prop :=
  BeginsWithLetter (fun c => Text.isAlnum c ∨ c = extra) name ∧ name.length ≤ 63

/-- A label of a domain name: one to 63 letters, digits and hyphens, no hyphen at either end. -/
structure Naming.IsDnsLabel (label : String) : Prop where
  nonempty : label ≠ ""
  length : label.length ≤ 63
  chars : ∀ c ∈ label.toList, Text.isAlnum c ∨ c = '-'
  head : label.toList.head? ≠ some '-'
  last : label.toList.getLast? ≠ some '-'

/-- A domain name: labels with dots between them, at least one and at least so many, 253 characters
at most. -/
def Naming.IsDnsName (minLabels : Nat) (name : String) : Prop :=
  (∃ labels : List String, labels ≠ [] ∧ minLabels ≤ labels.length ∧
    (∀ label ∈ labels, IsDnsLabel label) ∧ name = String.intercalate "." labels) ∧
  name.length ≤ 253

/-- The tag of an image: one to 128 bytes, and nothing blank. -/
structure Naming.IsImageTag (tag : String) : Prop where
  nonempty : tag ≠ ""
  bytes : Text.byteCount tag ≤ 128
  chars : ∀ c ∈ tag.toList, ¬ Text.isBlank c

/-- The name of a region: at least three parts with hyphens between them, each of small letters and
digits, the last one a number. -/
def Region.IsName (name : String) : Prop :=
  ∃ (front : List String) (last : String),
    2 ≤ front.length ∧
      (∀ part ∈ front, part ≠ "" ∧ ∀ c ∈ part.toList, Text.isLower c ∨ Text.isDigit c) ∧
      (last ≠ "" ∧ ∀ c ∈ last.toList, Text.isDigit c) ∧
      name = String.intercalate "-" (front ++ [last])

/-- Memory that goes with a number of processor units: the least amount of a size on offer, or whole
gibibytes up to the most. -/
def TaskSize.IsOffered (cpu memory : Nat) : Prop :=
  ∃ size ∈ table, size.cpu = cpu ∧ size.minMemory ≤ memory ∧ memory ≤ size.maxMemory ∧
    (memory = size.minMemory ∨ 1024 ∣ memory)

namespace Naming

theorem isLetterThen_iff {allowed : Char → Bool} {name : String} :
    isLetterThen allowed name.toList = true ↔ BeginsWithLetter (fun c => allowed c) name := by
  unfold BeginsWithLetter
  cases name.toList with
  | nil => simp [isLetterThen]
  | cons first rest =>
      rw [isLetterThen, Bool.and_eq_true, List.all_eq_true]
      constructor
      · exact fun h => ⟨first, rest, rfl, h⟩
      · rintro ⟨_, _, hSame, h⟩
        obtain ⟨rfl, rfl⟩ := List.cons.inj hSame
        exact h

theorem isDeploymentPrefix_iff {name : String} :
    isDeploymentPrefix name = true ↔ BeginsWithLetter (fun c => Text.isAlnum c) name :=
  isLetterThen_iff

/-- Letters, digits and another character of one byte are counted by their number. -/
theorem byteCount_eq_length {extra : Char} {name : String} (hExtra : extra.utf8Size = 1)
    (h : ∀ c ∈ name.toList, Text.isAlnum c ∨ c = extra) : Text.byteCount name = name.length := by
  refine Text.charsByteCount_eq_length fun c hMem => ?_
  rcases h c hMem with hAlnum | rfl
  · exact Text.utf8Size_of_isAlnum hAlnum
  · exact hExtra

theorem isIdentifier_iff {extra : Char} {name : String} (hExtra : extra.utf8Size = 1) :
    isIdentifier extra name = true ↔ IsIdentifier extra name := by
  rw [isIdentifier, Bool.and_eq_true, isLetterThen_iff, decide_eq_true_eq, IsIdentifier]
  simp only [Bool.or_eq_true, decide_eq_true_eq]
  refine and_congr_right fun ⟨first, rest, hName, hFirst, hRest⟩ => ?_
  rw [byteCount_eq_length hExtra]
  rw [hName]
  refine List.forall_mem_cons.mpr ⟨?_, hRest⟩
  rw [Text.isAlnum, hFirst, Bool.true_or]
  exact .inl rfl

theorem isDnsLabel_iff {label : String} :
    isDnsLabel label.toList = true ↔ IsDnsLabel label := by
  rw [isDnsLabel]
  simp only [Bool.and_eq_true, decide_eq_true_eq, List.all_eq_true, Bool.or_eq_true, ne_eq,
    decide_not, Bool.not_eq_true', decide_eq_false_iff_not]
  have hCount (h : ∀ c ∈ label.toList, Text.isAlnum c ∨ c = '-') :
      Text.charsByteCount label.toList = label.length := byteCount_eq_length (by decide) h
  constructor
  · rintro ⟨⟨⟨⟨hNonempty, hLength⟩, hHead⟩, hLast⟩, hChars⟩
    exact ⟨fun hEmpty => hNonempty (by rw [hEmpty]; rfl), hCount hChars ▸ hLength, hChars, hHead,
      hLast⟩
  · intro h
    refine ⟨⟨⟨⟨fun hNil => h.nonempty ?_, ?_⟩, h.head⟩, h.last⟩, h.chars⟩
    · exact String.toList_inj.mp hNil
    · exact hCount h.chars ▸ h.length

/-- Dots take one byte, too, so the whole name is counted by its characters. -/
theorem byteCount_dnsName {name : String}
    (h : ∀ label ∈ Text.splitChars '.' name.toList, isDnsLabel label = true) :
    Text.byteCount name = name.length := by
  refine Text.charsByteCount_eq_length fun c hMem => ?_
  rcases Text.eq_or_mem_splitChars '.' hMem with rfl | ⟨label, hLabel, hChar⟩
  · decide
  · have hLabel := isDnsLabel_iff.mp ((String.toList_ofList (l := label)).symm ▸ h label hLabel)
    rcases hLabel.chars c (by rwa [String.toList_ofList]) with hAlnum | rfl
    · exact Text.utf8Size_of_isAlnum hAlnum
    · decide

theorem isDnsName_iff {minLabels : Nat} {name : String} :
    isDnsName minLabels name = true ↔ IsDnsName minLabels name := by
  have hCut := Text.splitChars_iff (fun parts =>
    minLabels ≤ parts.length ∧ ∀ part ∈ parts, isDnsLabel part = true) '.' name
  rw [isDnsName, IsDnsName]
  simp only [Bool.and_eq_true, decide_eq_true_eq, List.all_eq_true]
  constructor
  · rintro ⟨⟨hCount, hBytes⟩, hLabels⟩
    rw [byteCount_dnsName hLabels] at hBytes
    obtain ⟨labels, hSome, -, hName, hLength, hLabels⟩ := hCut.mp ⟨hCount, hLabels⟩
    rw [List.length_map] at hLength
    exact ⟨⟨labels, hSome, hLength, fun label hMem =>
      isDnsLabel_iff.mp (hLabels _ (List.mem_map_of_mem hMem)), hName⟩, hBytes⟩
  · rintro ⟨⟨labels, hSome, hLength, hLabels, hName⟩, hBytes⟩
    have hDot : ∀ label ∈ labels, '.' ∉ label.toList := by
      intro label hMem hDot
      have hChar := (hLabels label hMem).chars '.' hDot
      revert hChar
      decide
    obtain ⟨hCount, hLabels⟩ := hCut.mpr ⟨labels, hSome, hDot, hName, by rwa [List.length_map],
      List.forall_mem_map.mpr fun label hMem => isDnsLabel_iff.mpr (hLabels label hMem)⟩
    rw [← byteCount_dnsName hLabels] at hBytes
    exact ⟨⟨hCount, hBytes⟩, hLabels⟩

theorem isImageTag_iff {tag : String} : isImageTag tag = true ↔ IsImageTag tag := by
  rw [isImageTag, Bool.and_eq_true, Bool.and_eq_true, decide_eq_true_eq, decide_eq_true_eq,
    Bool.not_eq_true', List.any_eq_false]
  exact ⟨fun ⟨⟨hNonempty, hBytes⟩, hChars⟩ => ⟨hNonempty, hBytes, hChars⟩,
    fun h => ⟨⟨h.nonempty, h.bytes⟩, h.chars⟩⟩

end Naming

namespace Region

theorem isPart_iff {part : String} :
    isPart part.toList = true ↔
      part ≠ "" ∧ ∀ c ∈ part.toList, Text.isLower c ∨ Text.isDigit c := by
  rw [isPart, Bool.and_eq_true, decide_eq_true_eq, List.all_eq_true]
  simp only [Bool.or_eq_true, ne_eq, String.toList_eq_nil_iff]

theorem isName_iff {name : String} : isName name = true ↔ IsName name := by
  have hCut := Text.splitChars_iff (fun parts =>
    (3 ≤ parts.length ∧ ∀ part ∈ parts, isPart part = true) ∧
      ∀ c ∈ parts.getLast?.getD [], Text.isDigit c = true) '-' name
  rw [isName]
  simp only [Bool.and_eq_true, decide_eq_true_eq, List.all_eq_true]
  rw [hCut]
  constructor
  · rintro ⟨parts, hParts, -, hName, ⟨hCount, hForm⟩, hLast⟩
    obtain rfl | ⟨front, last, rfl⟩ := List.eq_nil_or_concat' parts
    · exact absurd rfl hParts
    rw [List.map_append, List.map_singleton] at hCount hForm hLast
    rw [List.length_append, List.length_map, List.length_singleton] at hCount
    rw [List.getLast?_concat, Option.getD_some] at hLast
    obtain ⟨hFront, hEnd⟩ := List.forall_mem_append.mp hForm
    refine ⟨front, last, by omega, fun part hMem => ?_, ⟨?_, hLast⟩, hName⟩
    · exact isPart_iff.mp (hFront _ (List.mem_map_of_mem hMem))
    · exact (isPart_iff.mp (hEnd _ (List.mem_singleton_self _))).1
  · rintro ⟨front, last, hCount, hFront, ⟨hLast, hDigits⟩, hName⟩
    have hForm : ∀ part ∈ front ++ [last],
        part ≠ "" ∧ ∀ c ∈ part.toList, Text.isLower c ∨ Text.isDigit c := by
      refine List.forall_mem_append.mpr ⟨hFront, List.forall_mem_singleton.mpr ⟨hLast, ?_⟩⟩
      exact fun c hMem => .inr (hDigits c hMem)
    have hHyphen : ∀ part ∈ front ++ [last], '-' ∉ part.toList := by
      intro part hMem hHyphen
      have hChar := (hForm part hMem).2 '-' hHyphen
      revert hChar
      decide
    refine ⟨front ++ [last], List.concat_ne_nil _ _, hHyphen, hName, ⟨?_, ?_⟩, ?_⟩
    · rw [List.length_map, List.length_append, List.length_singleton]
      omega
    · exact List.forall_mem_map.mpr fun part hMem => isPart_iff.mpr (hForm part hMem)
    · rwa [List.map_append, List.map_singleton, List.getLast?_concat, Option.getD_some]

end Region

namespace TaskSize

theorem accepts_iff {size : TaskSize} {memory : Nat} :
    size.accepts memory = true ↔ size.minMemory ≤ memory ∧ memory ≤ size.maxMemory ∧
      (memory = size.minMemory ∨ 1024 ∣ memory) := by
  rw [accepts, Bool.and_eq_true, Bool.and_eq_true, Bool.or_eq_true]
  simp only [decide_eq_true_eq, Nat.dvd_iff_mod_eq_zero, and_assoc]

end TaskSize

end Blueprint
