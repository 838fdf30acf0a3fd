import Blueprint.Proofs.Template.Entries

/-! Rendering a declaration by type. A template is made from the JSON form of a declaration, where
what is a value and what is data is told from the keys of an object alone. Here the declaration is
rendered from its tree of properties, where the two are different nodes, and the two renderings are
compared. They differ on one sort of declaration only: one that has a map from texts to texts whose
single key is the one plain texts are written with. -/

namespace Blueprint

namespace Property

mutual

/-- A tree of properties as a template has it: every value as it is written in the topology of a
name, all other data verbatim. -/
def render (consumer : String) : Property → Json
  | .data json => json
  | .value v => Intrinsic.value consumer v
  | .list items => .arr (renderItems consumer items)
  | .record fields => Json.object (renderFields consumer fields)

/-- `render` on the items of a list. -/
def renderItems (consumer : String) : List Property → List Json
  | [] => []
  | item :: rest => render consumer item :: renderItems consumer rest

/-- `render` on the fields of a record. -/
def renderFields (consumer : String) : List (String × Property) → List (String × Json)
  | [] => []
  | (key, property) :: rest => (key, render consumer property) :: renderFields consumer rest

end

theorem renderItems_eq_map (consumer : String) (items : List Property) :
    renderItems consumer items = items.map (render consumer) := by
  induction items with
  | nil => rfl
  | cons first rest ih => rw [renderItems, ih, List.map_cons]

theorem renderFields_eq_map (consumer : String) (fields : List (String × Property)) :
    renderFields consumer fields = fields.map fun field => (field.1, field.2.render consumer) := by
  induction fields with
  | nil => rfl
  | cons first rest ih =>
      obtain ⟨key, property⟩ := first
      rw [renderFields, ih, List.map_cons]

end Property

open Property

/-- A declaration as a template has it: its kind, and the properties that are set. -/
def Spec.rendered (consumer : String) (spec : Spec) : Json :=
  Json.object
    [("Type", .str spec.kind), ("Properties", (record spec.setFields).render consumer)]

/-- The maps from texts to texts in a declaration. -/
def Spec.textMaps : Spec → List (Dict String)
  | parameterGroup spec => [spec.parameters]
  | databaseCluster spec => [spec.tags]
  | _ => []

theorem Spec.rendered_eq (consumer : String) (spec : Spec) :
    spec.rendered consumer =
      .obj
        [("Properties", (record spec.setFields).render consumer), ("Type", .str spec.kind)] := by
  simp only [Spec.rendered, Json.object, Dict.ofList, Dict.insert, insertEntry, Dict.empty,
    List.foldl_cons, List.foldl_nil, String.reduceLT, ↓reduceIte]

theorem Spec.setFields_sublist (spec : Spec) : spec.setFields.Sublist spec.fields := by
  cases spec with
  | securityGroup spec =>
      obtain ⟨name, description, vpc, ingress, egress⟩ := spec
      cases name with
      | none => exact List.sublist_cons_self _ _
      | some name => exact List.Sublist.refl _
  | _ => exact List.Sublist.refl _

/-- A map from texts to texts is one of the fields that are set. -/
theorem Spec.exists_textField {spec : Spec} {d : Dict String} (h : d ∈ spec.textMaps) :
    ∃ key, (key, dict d text) ∈ spec.setFields := by
  cases spec with
  | parameterGroup spec =>
      obtain rfl := List.mem_singleton.mp h
      exact ⟨"Parameters", by simp [setFields, fields]⟩
  | databaseCluster spec =>
      obtain rfl := List.mem_singleton.mp h
      exact ⟨"Tags", by simp [setFields, fields, clusterFields]⟩
  | _ => exact absurd h List.not_mem_nil

namespace Property

/-- Data that a template has verbatim and does not leave out. -/
def IsKept (consumer : String) (json : Json) : Prop :=
  json ≠ .null ∧ Intrinsic.resolve consumer json = json

/-- The fields of a record that is not taken for a value. -/
def IsUnconfused (fields : List (String × Property)) : Prop :=
  Value.ofJson? (record fields).toJson = none

theorem IsNamed.isUnconfused {fields : List (String × Property)} (h : IsNamed fields) :
    IsUnconfused fields := by
  refine Value.ofJson?_eq_none fun member hMem hValue => ?_
  obtain ⟨field, hField, rfl⟩ := exists_field_of_mem hMem
  refine h.2 field.1 (List.mem_map.mpr ⟨field, hField, rfl⟩) ?_
  simp at hValue ⊢
  tauto

theorem isNamed_setFields (spec : Spec) : IsNamed spec.setFields :=
  ⟨spec.isNamed_fields.1.sublist (spec.setFields_sublist.map Prod.fst),
    fun key hMem => spec.isNamed_fields.2 key ((spec.setFields_sublist.map Prod.fst).subset hMem)⟩

theorem fixed_isUnconfused (consumer : String) : Fixed (IsKept consumer) IsUnconfused :=
  ⟨fun h hSet => ⟨hSet, Intrinsic.resolve_plain consumer h⟩, IsNamed.isUnconfused⟩

/-- Only data is null. -/
theorem Every.toJson_ne_null {leaf : Json → Prop} {record : List (String × Property) → Prop}
    {p : Property} (h : p.Every leaf record) (hLeaf : ∀ json, leaf json → json ≠ .null) :
    p.toJson ≠ .null := by
  cases h with
  | data h => exact hLeaf _ h
  | value v =>
      obtain ⟨kind, json, hJson, -⟩ := v.toJson_eq_singleton
      rw [toJson, hJson]
      exact Json.noConfusion
  | list h => exact Json.noConfusion
  | record h hFields => exact Json.noConfusion

/-! ### Maps -/

/-- A map with several keys is no value, so only a single entry can make it one. -/
theorem isUnconfused_dict {α : Type} {d : Dict α} {property : α → Property}
    (h : ∀ key a, d.entries = [(key, a)] →
      Value.ofJson? (.obj [(key, (property a).toJson)]) = none) :
    IsUnconfused (mapFields d property) := by
  refine (congrArg Value.ofJson? (toJson_dict d property)).trans ?_
  match hEntries : d.entries with
  | [] => exact Value.ofJson?_eq_none (by simp)
  | [(key, a)] => exact h key a hEntries
  | first :: second :: rest => exact Value.ofJson?_many_eq_none _ _ _

theorem isUnconfused_values (d : Dict Value) : IsUnconfused (mapFields d .value) :=
  isUnconfused_dict fun key v _ => Value.ofJson?_toJson_eq_none key v

theorem isUnconfused_mountTargets (d : Dict MountTarget) :
    IsUnconfused (mapFields d MountTarget.property) :=
  isUnconfused_dict fun key target _ =>
    Value.ofJson?_nested_eq_none key
      ((Json.member?_object _ _).trans (by simp [fieldsToJson, lookup_cons_ite]))
      ((Json.member?_object _ _).trans (by simp [fieldsToJson, lookup_cons_ite]))

theorem isUnconfused_texts {d : Dict String} (h : d.keys ≠ ["literal"]) :
    IsUnconfused (mapFields d text) := by
  refine isUnconfused_dict fun key s hEntries => Value.ofJson?_text_eq_none s ?_
  rintro rfl
  exact h (by rw [Dict.keys, hEntries]; rfl)

theorem toJson_ne_null_of_mem_setFields {spec : Spec} :
    ∀ field ∈ spec.setFields, field.2.toJson ≠ .null := by
  have hFixed : Fixed (· ≠ .null) (fun _ => True) := ⟨fun _ hSet => hSet, fun _ => trivial⟩
  exact fun field hMem =>
    (Spec.every_setFields hFixed (fun _ _ => trivial) field hMem).toJson_ne_null fun _ hSet => hSet

/-- Maps of values and of mount targets are never taken for a value, whatever their keys. -/
theorem isUnconfused_maps {spec : Spec} (h : ∀ d ∈ spec.textMaps, d.keys ≠ ["literal"]) :
    ∀ fields ∈ spec.maps, IsUnconfused fields := by
  cases spec with
  | parameterGroup spec =>
      exact List.forall_mem_singleton.mpr (isUnconfused_texts (h _ (List.mem_singleton_self _)))
  | databaseCluster spec =>
      exact List.forall_mem_singleton.mpr (isUnconfused_texts (h _ (List.mem_singleton_self _)))
  | fileSystem spec => exact List.forall_mem_singleton.mpr (isUnconfused_mountTargets _)
  | dashboard spec =>
      exact List.forall_mem_flatMap.mpr fun graph _ => List.forall_mem_map.mpr fun metric _ =>
        isUnconfused_values _
  | service spec => exact List.forall_mem_singleton.mpr (isUnconfused_values _)
  | _ => exact List.forall_mem_nil _

end Property

namespace Intrinsic

variable {consumer : String}

theorem resolveMembers_eq_map {members : List (String × Json)}
    (h : ∀ member ∈ members, member.2 ≠ .null) :
    resolveMembers consumer members =
      members.map fun member => (member.1, resolve consumer member.2) := by
  induction members with
  | nil => rfl
  | cons first rest ih =>
      obtain ⟨hFirst, hRest⟩ := List.forall_mem_cons.mp h
      obtain ⟨key, json⟩ := first
      rw [resolveMembers, ih hRest, List.map_cons]
      exact hFirst

/-- A record that is not taken for a value is resolved field by field. -/
theorem resolve_record {fields : List (String × Property)} (h : IsUnconfused fields)
    (hSet : ∀ field ∈ fields, field.2.toJson ≠ .null) :
    resolve consumer (record fields).toJson =
      Json.object (fields.map fun field => (field.1, resolve consumer field.2.toJson)) := by
  have hMembers : ∀ member ∈ (Dict.ofList (fieldsToJson fields)).entries, member.2 ≠ .null := by
    intro member hMem
    obtain ⟨field, hField, rfl⟩ := exists_field_of_mem hMem
    exact hSet field hField
  have hMap : (Dict.ofList (fields.map fun field => (field.1, resolve consumer field.2.toJson))) =
      (Dict.ofList (fieldsToJson fields)).map (resolve consumer) := by
    rw [← Dict.ofList_map, fieldsToJson_eq_map, List.map_map]
    rfl
  rw [toJson, Json.object, resolve_obj h, resolveMembers_eq_map hMembers, Json.object, hMap,
    Dict.map]

/-- The induction is on the tree. Values are decoded as they were encoded, and no record is taken
for one. -/
theorem resolve_eq_render {p : Property} (h : p.Every (IsKept consumer) IsUnconfused) :
    resolve consumer p.toJson = p.render consumer := by
  induction h with
  | data h => exact h.2
  | value v => rw [toJson, resolve_toJson, render]
  | @list items h ih =>
      rw [toJson, resolve, resolveItems_eq_map, toJsons_eq_map, List.map_map, render,
        renderItems_eq_map]
      exact congrArg Json.arr (List.map_congr_left ih)
  | @record fields h hFields ih =>
      rw [resolve_record h fun field hMem => (hFields field hMem).toJson_ne_null fun _ h => h.1,
        render, renderFields_eq_map]
      exact congrArg Json.object (List.map_congr_left fun field hMem => by rw [ih field hMem])

/-- The one map that is taken for a value is written as a text. -/
theorem resolve_dict_literal (consumer : String) {d : Dict String} (h : d.keys = ["literal"]) :
    ∃ s, resolve consumer (dict d text).toJson = .str s := by
  obtain ⟨⟨key, s⟩, hEntries, rfl⟩ := List.map_eq_singleton_iff.mp h
  refine ⟨s, ?_⟩
  have hJson : (dict d text).toJson = (Value.literal s).toJson := by
    rw [toJson_dict, Value.toJson_literal, hEntries]
    rfl
  rw [hJson, resolve_toJson, value]

/-! ### Declarations -/

/-- A name that is not set is dropped, as if the field were not there. -/
theorem resolve_properties (spec : Spec) :
    resolve consumer spec.properties.toJson = resolve consumer (record spec.setFields).toJson := by
  cases spec with
  | securityGroup spec =>
      obtain ⟨name, description, vpc, ingress, egress⟩ := spec
      cases name with
      | some name => rfl
      | none =>
          simp only [Spec.properties, Spec.setFields, Spec.fields, text?, text, field?,
            List.nil_append, toJson, fieldsToJson, Json.object, Dict.ofList, Dict.insert,
            insertEntry, Dict.empty, List.foldl_cons, List.foldl_nil, String.reduceLT,
            String.reduceEq, ↓reduceIte]
          rw [resolve_obj (Value.ofJson?_many_eq_none _ _ _),
            resolve_obj (Value.ofJson?_many_eq_none _ _ _)]
          simp only [resolveMembers]
  | _ => rfl

/-- Whether a declaration is rendered faithfully is decided by its maps from texts to texts. -/
theorem resolve_eq_rendered_iff (spec : Spec) :
    resolve consumer spec.toJson = spec.rendered consumer ↔
      ∀ d ∈ spec.textMaps, d.keys ≠ ["literal"] := by
  have hSame : resolve consumer spec.toJson = spec.rendered consumer ↔
      resolve consumer (record spec.setFields).toJson =
        (record spec.setFields).render consumer := by
    rw [Template.resolve_spec, spec.rendered_eq, resolve_properties]
    simp
  rw [hSame]
  constructor
  · intro h d hMap hKeys
    obtain ⟨key, hField⟩ := Spec.exists_textField hMap
    rw [resolve_record (isNamed_setFields spec).isUnconfused toJson_ne_null_of_mem_setFields,
      render, renderFields_eq_map] at h
    obtain ⟨s, hText⟩ := resolve_dict_literal consumer hKeys
    have hDict := Json.eq_of_object_eq (fun p => resolve consumer p.toJson) (render consumer)
      (isNamed_setFields spec).1 h _ hField
    rw [hText] at hDict
    exact Json.noConfusion hDict
  · intro h
    exact resolve_eq_render (.record (isNamed_setFields spec).isUnconfused
      (Spec.every_setFields (fixed_isUnconfused consumer) (isUnconfused_maps h)))

/-- Decoding undoes encoding, so a template says of every declaration what its tree of properties
says, unless a map from texts to texts passes for a plain text. No other map is ever taken for a
value. -/
theorem resolve_faithful (consumer : String) :
    (∀ spec : Spec, resolve consumer spec.toJson = spec.rendered consumer ↔
      ∀ d ∈ spec.textMaps, d.keys ≠ ["literal"]) ∧
    (∀ v : Value, Value.ofJson? v.toJson = some v ∧ resolve consumer v.toJson = value consumer v) ∧
    (∀ d : Dict Value, Value.ofJson? (dict d .value).toJson = none) ∧
    (∀ d : Dict MountTarget, Value.ofJson? (dict d MountTarget.property).toJson = none) :=
  ⟨resolve_eq_rendered_iff, fun v => ⟨v.ofJson?_toJson, resolve_toJson consumer v⟩,
    isUnconfused_values, isUnconfused_mountTargets⟩

end Intrinsic

end Blueprint
