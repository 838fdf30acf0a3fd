import Blueprint.Proofs.Template.Placeholders
import Mathlib.Logic.Function.Basic

/-! What a value comes to once the deployment has been made. It can be told from the value itself or
from what is written for it in a template, where joins of plain texts are already carried out. Both
ways give the same, whatever the attributes turn out to be. -/

namespace Blueprint

/-- What a value comes to: a text, and the items where a list is asked for. -/
structure Content where
  text : String
  items : List String
  deriving DecidableEq

namespace Value

/-- A value stands in another one, at any depth. -/
inductive Contains : Value → Value → Prop where
  | self (v : Value) : Contains v v
  | part {separator : String} {parts : List Value} {part v : Value} (hPart : part ∈ parts)
      (h : Contains part v) : Contains (.join separator parts) v
  | list {separator : String} {list v : Value} (h : Contains list v) :
      Contains (.joinList separator list) v

/-- The value holds no reference and no join over a list. -/
structure IsPlain (v : Value) : Prop where
  noReference : ∀ r, ¬ v.Contains (.ref r)
  noList : ∀ separator list, ¬ v.Contains (.joinList separator list)

theorem isPlain_literal (text : String) : (literal text).IsPlain where
  noReference _ h := by cases h
  noList _ _ h := by cases h

theorem not_isPlain_ref (r : Reference) : ¬ (ref r).IsPlain :=
  fun h => h.noReference r (.self _)

theorem not_isPlain_joinList (separator : String) (list : Value) :
    ¬ (joinList separator list).IsPlain :=
  fun h => h.noList separator list (.self _)

theorem isPlain_join_iff {separator : String} {parts : List Value} :
    (join separator parts).IsPlain ↔ ∀ part ∈ parts, part.IsPlain := by
  constructor
  · intro h part hPart
    exact ⟨fun r hRef => h.noReference r (.part hPart hRef),
      fun separator list hList => h.noList separator list (.part hPart hList)⟩
  · intro h
    constructor
    · intro r hRef
      cases hRef with
      | part hPart hRef => exact (h _ hPart).noReference r hRef
    · intro separator list hList
      cases hList with
      | part hPart hList => exact (h _ hPart).noList separator list hList

theorem displays_eq_map (parts : List Value) : displays parts = parts.map display := by
  induction parts with
  | nil => rfl
  | cons part rest ih => rw [displays, ih, List.map_cons]

end Value

section

-- How a plain text is taken where a list is asked for is left open.
variable (itemsOf : String → List String)

def Content.ofText (text : String) : Content := ⟨text, itemsOf text⟩

mutual

/-- What a value comes to, if it is known what its references come to. -/
def Value.content (known : Reference → Content) : Value → Content
  | .literal text => .ofText itemsOf text
  | .ref r => known r
  | .join separator parts => .ofText itemsOf (String.intercalate separator (partTexts known parts))
  | .joinList separator list =>
    .ofText itemsOf (String.intercalate separator (content known list).items)

/-- The texts that some values come to. -/
def Value.partTexts (known : Reference → Content) : List Value → List String
  | [] => []
  | part :: parts => (content known part).text :: partTexts known parts

end

mutual

/-- What a JSON value in a template comes to, if it is known what the placeholders come to; none
when it is neither a text nor a placeholder nor a join. -/
def Json.content? (shown : Placeholder → Content) : Json → Option Content
  | .str text => some (.ofText itemsOf text)
  | .obj [(key, json)] =>
    match Placeholder.ofMember? key json with
    | some placeholder => some (shown placeholder)
    | none =>
      if key = "Fn::Join" then (joinedText? shown json).map (.ofText itemsOf) else none
  | _ => none

/-- The text of a join: a separator with an array of parts, or with a list. -/
def Json.joinedText? (shown : Placeholder → Content) : Json → Option String
  | .arr [.str separator, .arr parts] =>
    (partTexts? shown parts).map (String.intercalate separator)
  | .arr [.str separator, list] =>
    (content? shown list).map fun content => String.intercalate separator content.items
  | _ => none

/-- The texts that all items come to. -/
def Json.partTexts? (shown : Placeholder → Content) : List Json → Option (List String)
  | [] => some []
  | item :: rest =>
    match content? shown item, partTexts? shown rest with
    | some content, some texts => some (content.text :: texts)
    | _, _ => none

end

end

namespace Placeholder

/-- The object that a placeholder is in a template. -/
def toJson : Placeholder → Json
  | .ref name => Json.object [("Ref", .str name)]
  | .getAtt resource attr => Json.object [("Fn::GetAtt", .strs [resource, attr])]
  | .importValue key => Json.object [("Fn::ImportValue", .str key)]

/-- A placeholder can be told from its only member. -/
theorem toJson_eq_singleton (p : Placeholder) :
    ∃ key json, p.toJson = .obj [(key, json)] ∧ ofMember? key json = some p := by
  cases p with
  | ref name => exact ⟨"Ref", .str name, rfl, rfl⟩
  | getAtt resource attr => exact ⟨"Fn::GetAtt", .strs [resource, attr], rfl, rfl⟩
  | importValue key => exact ⟨"Fn::ImportValue", .str key, rfl, rfl⟩

theorem toJson_injective : Function.Injective toJson := by
  intro p q hSame
  obtain ⟨key, json, hJson, hRead⟩ := p.toJson_eq_singleton
  obtain ⟨key', json', hJson', hRead'⟩ := q.toJson_eq_singleton
  rw [hJson, hJson'] at hSame
  cases hSame
  exact Option.some.inj (hRead.symm.trans hRead')

end Placeholder

namespace Intrinsic

open Placeholder

theorem reference_eq_toJson (consumer : String) (r : Reference) :
    reference consumer r = (ofReference consumer r).toJson := by
  unfold reference ofReference
  split
  · unfold ownAttribute own
    split <;> rfl
  · split <;> rfl

/-- References are written alike exactly when one placeholder stands for them. -/
theorem reference_eq_iff {consumer : String} {r r' : Reference} :
    reference consumer r = reference consumer r' ↔
      ofReference consumer r = ofReference consumer r' := by
  rw [reference_eq_toJson, reference_eq_toJson]
  exact toJson_injective.eq_iff

/-! ### Texts -/

theorem texts?_eq_some_iff {items : List Json} {texts : List String} :
    texts? items = some texts ↔ items = texts.map .str := by
  induction items generalizing texts with
  | nil => cases texts <;> simp [texts?]
  | cons first rest ih =>
      cases first with
      | str text =>
          rw [texts?, Option.map_eq_some_iff]
          constructor
          · rintro ⟨others, hRest, rfl⟩
            rw [List.map_cons, ih.mp hRest]
          · intro hItems
            obtain ⟨_, others, rfl, hFirst, hRest⟩ := List.map_eq_cons_iff.mp hItems.symm
            cases hFirst
            exact ⟨others, ih.mpr hRest.symm, rfl⟩
      | _ => cases texts <;> simp [texts?]

mutual

/-- A value of texts and joins is written as the text that it is displayed as. -/
theorem value_of_isPlain (consumer : String) {v : Value} (h : v.IsPlain) :
    value consumer v = .str v.display := by
  match v with
  | .literal text => rfl
  | .ref r => exact absurd h (Value.not_isPlain_ref r)
  | .join separator parts =>
      have hParts := values_of_isPlain consumer (Value.isPlain_join_iff.mp h)
      rw [value, joined, texts?_eq_some_iff.mpr hParts, Value.display, Value.displays_eq_map]
  | .joinList separator list => exact absurd h (Value.not_isPlain_joinList separator list)

/-- `value_of_isPlain` on the parts of a join. -/
theorem values_of_isPlain (consumer : String) {parts : List Value}
    (h : ∀ part ∈ parts, part.IsPlain) :
    values consumer parts = (parts.map Value.display).map .str := by
  match parts with
  | [] => rfl
  | part :: rest =>
      obtain ⟨hFirst, hRest⟩ := List.forall_mem_cons.mp h
      rw [values, value_of_isPlain consumer hFirst, values_of_isPlain consumer hRest,
        List.map_cons, List.map_cons]

end

mutual

/-- Nothing but a value of texts and joins is written as a text. -/
theorem isPlain_of_value_eq_str {consumer text : String} {v : Value}
    (h : value consumer v = .str text) : v.IsPlain := by
  match v with
  | .literal text => exact Value.isPlain_literal text
  | .ref r =>
      obtain ⟨key, json, hJson, -⟩ := (ofReference consumer r).toJson_eq_singleton
      rw [value, reference_eq_toJson, hJson] at h
      cases h
  | .join separator parts =>
      rw [value, joined] at h
      split at h
      next texts hTexts => exact Value.isPlain_join_iff.mpr (isPlain_of_texts?_values hTexts)
      next => cases h
  | .joinList separator list =>
      rw [value] at h
      cases h

/-- `isPlain_of_value_eq_str` on the parts of a join. -/
theorem isPlain_of_texts?_values {consumer : String} {parts : List Value} {texts : List String}
    (h : texts? (values consumer parts) = some texts) : ∀ part ∈ parts, part.IsPlain := by
  match parts with
  | [] => exact List.forall_mem_nil _
  | part :: rest =>
      rw [texts?_eq_some_iff, values] at h
      obtain ⟨text, others, -, hFirst, hRest⟩ := List.map_eq_cons_iff.mp h.symm
      refine List.forall_mem_cons.mpr ⟨isPlain_of_value_eq_str hFirst.symm, ?_⟩
      exact isPlain_of_texts?_values (texts?_eq_some_iff.mpr hRest.symm)

end

/-! ### Contents -/

variable {itemsOf : String → List String} {consumer : String} {known : Reference → Content}
  {shown : Placeholder → Content}

theorem content?_toJson (p : Placeholder) : p.toJson.content? itemsOf shown = some (shown p) := by
  obtain ⟨key, json, hJson, hRead⟩ := p.toJson_eq_singleton
  rw [hJson, Json.content?, hRead]

theorem content?_join (json : Json) :
    (Json.object [("Fn::Join", json)]).content? itemsOf shown =
      (json.joinedText? itemsOf shown).map (.ofText itemsOf) := by
  have hNone : ofMember? "Fn::Join" json = none := by
    unfold ofMember?
    split <;> rfl
  rw [Json.object_singleton, Json.content?, hNone]
  exact if_pos rfl

theorem partTexts?_map_str (texts : List String) :
    Json.partTexts? itemsOf shown (texts.map .str) = some texts := by
  induction texts with
  | nil => rfl
  | cons text rest ih => rw [List.map_cons, Json.partTexts?, ih]; rfl

/-- It makes no difference that a join of plain texts is carried out beforehand. -/
theorem content?_joined {separator : String} {parts : List Json} {texts : List String}
    (h : Json.partTexts? itemsOf shown parts = some texts) :
    (joined separator parts).content? itemsOf shown =
      some (.ofText itemsOf (String.intercalate separator texts)) := by
  unfold joined
  split
  next plain hPlain =>
    rw [texts?_eq_some_iff.mp hPlain, partTexts?_map_str] at h
    rw [Option.some.inj h]
    rfl
  next => rw [content?_join, Json.joinedText?, h]; rfl

theorem value_ne_arr (consumer : String) (v : Value) (items : List Json) :
    value consumer v ≠ .arr items := by
  intro h
  cases v with
  | literal text => cases h
  | ref r =>
      obtain ⟨key, json, hJson, -⟩ := (ofReference consumer r).toJson_eq_singleton
      rw [value, reference_eq_toJson, hJson] at h
      cases h
  | join separator parts =>
      rw [value, joined] at h
      split at h <;> cases h
  | joinList separator list =>
      rw [value] at h
      cases h

mutual

/-- A value and what is written for it come to the same. -/
theorem content?_value (h : ∀ r, shown (ofReference consumer r) = known r) (v : Value) :
    (value consumer v).content? itemsOf shown = some (v.content itemsOf known) := by
  match v with
  | .literal text => rfl
  | .ref r => rw [value, reference_eq_toJson, content?_toJson, h, Value.content]
  | .join separator parts =>
      rw [value, content?_joined (partTexts?_values h parts), Value.content]
  | .joinList separator list =>
      rw [value, content?_join, Json.joinedText?, content?_value h list, Value.content]
      · rfl
      · exact fun items => value_ne_arr consumer list items

/-- `content?_value` on the parts of a join. -/
theorem partTexts?_values (h : ∀ r, shown (ofReference consumer r) = known r)
    (parts : List Value) :
    Json.partTexts? itemsOf shown (values consumer parts) =
      some (Value.partTexts itemsOf known parts) := by
  match parts with
  | [] => rfl
  | part :: rest =>
      rw [values, Json.partTexts?, content?_value h part, partTexts?_values h rest, Value.partTexts]

end

/-- What is known of the references is what is known of the placeholders that stand for them. -/
def Agree (consumer : String) (known : Reference → Content) (shown : Placeholder → Content) :
    Prop :=
  ∀ r, shown (ofReference consumer r) = known r

/-- Writing a value down keeps what it comes to. Suppose that references come to the same if they
are written alike. Then it can be told what each placeholder comes to, and what is written for a
value comes to what the value comes to, however plain texts are taken for lists. It is one text
exactly if the value holds no reference and no join over a list, and then it is the displayed
text. -/
theorem value_keeps_content {consumer : String} {known : Reference → Content}
    (h : known.FactorsThrough (reference consumer)) :
    (∃ shown, Agree consumer known shown) ∧
    (∀ shown, Agree consumer known shown → ∀ itemsOf v,
      (value consumer v).content? itemsOf shown = some (v.content itemsOf known)) ∧
    ∀ v : Value, ((∃ text, value consumer v = .str text) ↔ v.IsPlain) ∧
      (v.IsPlain → value consumer v = .str v.display) := by
  have hFactors : known.FactorsThrough (ofReference consumer) := fun r r' hSame =>
    h (reference_eq_iff.mpr hSame)
  refine ⟨⟨Function.extend (ofReference consumer) known fun _ => ⟨"", []⟩, ?_⟩, ?_, fun v => ?_⟩
  · exact fun r => hFactors.extend_apply _ r
  · exact fun shown hAgree itemsOf v => content?_value hAgree v
  · refine ⟨⟨fun ⟨text, hText⟩ => isPlain_of_value_eq_str hText, fun hPlain => ?_⟩,
      value_of_isPlain consumer⟩
    exact ⟨v.display, value_of_isPlain consumer hPlain⟩

/-- Placeholders with a content each: what is imported has two items. -/
def sampleContent : Placeholder → Content
  | .ref name => ⟨name, [name]⟩
  | .getAtt resource attr => ⟨resource ++ "." ++ attr, [attr]⟩
  | .importValue _ => ⟨"a,b", ["a", "b"]⟩

/-- Joins of plain texts, of a list and of an own attribute within each other. -/
def sampleValue : Value :=
  let servers : Reference := ⟨"Base", .cdnHome, .lit "Parent", Attribute.nameServers, false⟩
  let cluster : Reference := ⟨"Web", .cdnHome, .lit "Cluster", Attribute.arn, false⟩
  .join "; "
    [.join "-" [.literal "x", .concat [], .literal "y"], .joinList " " (.ref servers), .ref cluster]

theorem value_keeps_content_sample :
    Function.FactorsThrough (fun r => sampleContent (ofReference "Web" r)) (reference "Web") ∧
      ∃ content, (value "Web" sampleValue).content? (fun text => [text]) sampleContent =
        some content ∧ content.text = "x--y; a b; Cluster.Arn" ∧ ¬ sampleValue.IsPlain := by
  have hFactors : Function.FactorsThrough (fun r => sampleContent (ofReference "Web" r))
      (reference "Web") := fun r r' hSame => congrArg sampleContent (reference_eq_iff.mp hSame)
  obtain ⟨-, hKept, hPlain⟩ := value_keeps_content hFactors
  refine ⟨hFactors, _, hKept sampleContent (fun _ => rfl) (fun text => [text]) sampleValue,
    by decide, fun hPlainValue => ?_⟩
  obtain ⟨text, hText⟩ := (hPlain sampleValue).1.mpr hPlainValue
  cases hText

end Intrinsic

end Blueprint
