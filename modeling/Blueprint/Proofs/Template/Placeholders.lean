import Blueprint.Proofs.Resource.Values
import Blueprint.Proofs.Value.Read
import Blueprint.Template.Intrinsic

/-! What stands in a template in the place of an attribute. A walk over the template finds it by the
keys of its members and knows nothing of how the template was made. In what is written for values
and declarations it finds one placeholder for each reference and no other. -/

namespace Blueprint

/-- What stands in a template for an attribute that exists only after the deployment. -/
inductive Placeholder where
  /-- `Ref`, with the name of a resource or of a parameter. -/
  | ref (name : String)
  /-- `Fn::GetAtt`, with the name of a resource and an attribute. -/
  | getAtt (resource attr : String)
  /-- `Fn::ImportValue`, with an export name. -/
  | importValue (key : String)
  deriving DecidableEq

namespace Placeholder

/-- The placeholder that a member of an object is. -/
def ofMember? (key : String) : Json → Option Placeholder
  | .str name =>
    if key = "Ref" then some (.ref name)
    else if key = "Fn::ImportValue" then some (.importValue name)
    else none
  | .arr [.str resource, .str attr] =>
    if key = "Fn::GetAtt" then some (.getAtt resource attr) else none
  | _ => none

/-- What stands for an attribute in the topology that declares the resource. -/
def own (r : Reference) : Placeholder :=
  if r.attr = Attribute.self then .ref r.resource.text else .getAtt r.resource.text r.attr

/-- What stands for an attribute in the topology of a name. -/
def ofReference (consumer : String) (r : Reference) : Placeholder :=
  if r.topology = consumer then own r
  else if r.crossRegion then .ref (Intrinsic.parameterName r)
  else .importValue r.exportKey

end Placeholder

namespace Json

mutual

/-- The placeholders in a JSON value, at any depth. -/
def placeholders : Json → List Placeholder
  | .obj members => memberPlaceholders members
  | .arr items => itemPlaceholders items
  | _ => []

/-- The members that are placeholders, and the placeholders in the values of all members. -/
def memberPlaceholders : List (String × Json) → List Placeholder
  | [] => []
  | (key, json) :: rest =>
    (Placeholder.ofMember? key json).toList ++ placeholders json ++ memberPlaceholders rest

/-- The placeholders in some items. -/
def itemPlaceholders : List Json → List Placeholder
  | [] => []
  | item :: rest => placeholders item ++ itemPlaceholders rest

end

/-- The placeholders that one member brings. -/
def placeholdersIn (member : String × Json) : List Placeholder :=
  (Placeholder.ofMember? member.1 member.2).toList ++ member.2.placeholders

theorem placeholders_obj (members : List (String × Json)) :
    (obj members).placeholders = members.flatMap placeholdersIn := by
  rw [placeholders]
  induction members with
  | nil => rfl
  | cons first rest ih =>
      obtain ⟨key, json⟩ := first
      rw [memberPlaceholders, ih, List.flatMap_cons, placeholdersIn]

theorem placeholders_arr (items : List Json) :
    (arr items).placeholders = items.flatMap placeholders := by
  rw [placeholders]
  induction items with
  | nil => rfl
  | cons first rest ih => rw [itemPlaceholders, ih, List.flatMap_cons]

@[simp] theorem placeholders_str (text : String) : (str text).placeholders = [] := rfl

/-- The order of the members does not matter, as long as none of them is lost. -/
theorem placeholders_object_perm {members : List (String × Json)}
    (hNodup : (members.map Prod.fst).Nodup) :
    (object members).placeholders.Perm (members.flatMap placeholdersIn) := by
  obtain ⟨entries, hObject, hPerm⟩ := object_eq_perm hNodup
  rw [hObject, placeholders_obj]
  exact hPerm.flatMap_right _

/-- A member under any other key brings only what its value holds. -/
theorem placeholdersIn_eq {key : String} {json : Json}
    (hKey : key ≠ "Ref" ∧ key ≠ "Fn::GetAtt" ∧ key ≠ "Fn::ImportValue") :
    placeholdersIn (key, json) = json.placeholders := by
  have hNone : Placeholder.ofMember? key json = none := by
    unfold Placeholder.ofMember?
    split
    · rw [if_neg hKey.1, if_neg hKey.2.2]
    · rw [if_neg hKey.2.1]
    · rfl
  rw [placeholdersIn, hNone, Option.toList_none, List.nil_append]

/-- Whatever the key, an object is no placeholder itself. -/
@[simp] theorem placeholdersIn_obj (key : String) (members : List (String × Json)) :
    placeholdersIn (key, obj members) = (obj members).placeholders := rfl

end Json

namespace Intrinsic

open Json Placeholder

theorem placeholders_ownAttribute (r : Reference) :
    (ownAttribute r).placeholders = [own r] := by
  unfold ownAttribute own
  split <;> rfl

theorem placeholdersIn_ownAttribute (key : String) (r : Reference) :
    placeholdersIn (key, ownAttribute r) = [own r] := by
  have hObject : placeholdersIn (key, ownAttribute r) = (ownAttribute r).placeholders := by
    unfold ownAttribute
    split <;> rfl
  rw [hObject, placeholders_ownAttribute]

theorem placeholders_reference (consumer : String) (r : Reference) :
    (reference consumer r).placeholders = [ofReference consumer r] := by
  unfold reference ofReference
  split
  · exact placeholders_ownAttribute r
  · split <;> rfl

/-! ### Values -/

/-- Plain texts hold no placeholder, so nothing is lost when a join is written as one text. -/
theorem placeholders_joined (separator : String) (parts : List Json) :
    (joined separator parts).placeholders = parts.flatMap placeholders := by
  have hTexts : ∀ (parts : List Json) (texts : List String), texts? parts = some texts →
      parts.flatMap placeholders = [] := by
    intro parts
    induction parts with
    | nil => exact fun _ _ => rfl
    | cons first rest ih =>
        intro texts hSome
        cases first with
        | str text =>
            rw [texts?, Option.map_eq_some_iff] at hSome
            obtain ⟨others, hRest, -⟩ := hSome
            rw [List.flatMap_cons, placeholders_str, List.nil_append, ih others hRest]
        | _ => cases hSome
  unfold joined
  split
  next texts hSome => rw [placeholders_str, hTexts parts texts hSome]
  next =>
    rw [object_singleton, placeholders_obj, List.flatMap_singleton,
      placeholdersIn_eq (by decide), placeholders_arr]
    simp [placeholders_arr]

mutual

/-- What is written for a value holds one placeholder for each reference, from left to right. -/
theorem placeholders_value (consumer : String) (v : Value) :
    (value consumer v).placeholders = v.references.map (ofReference consumer) := by
  match v with
  | .literal text => rfl
  | .ref r => rw [value, placeholders_reference, Value.references, List.map_singleton]
  | .join separator parts =>
      rw [value, placeholders_joined, flatMap_placeholders_values, Value.references]
  | .joinList separator list =>
      rw [value, object_singleton, placeholders_obj, List.flatMap_singleton,
        placeholdersIn_eq (by decide), placeholders_arr]
      simp [placeholders_value consumer list, Value.references]

/-- `placeholders_value` on the parts of a join. -/
theorem flatMap_placeholders_values (consumer : String) (parts : List Value) :
    (values consumer parts).flatMap placeholders =
      (Value.referencesOf parts).map (ofReference consumer) := by
  match parts with
  | [] => rfl
  | part :: rest =>
      rw [values, List.flatMap_cons, placeholders_value consumer part,
        flatMap_placeholders_values consumer rest, Value.referencesOf, List.map_append]

end

/-! ### Declarations -/

theorem resolve_toJson (consumer : String) (v : Value) :
    resolve consumer v.toJson = value consumer v := by
  obtain ⟨kind, json, hJson, -⟩ := v.toJson_eq_singleton
  have hRead := v.ofJson?_toJson
  rw [hJson] at hRead ⊢
  rw [resolve, hRead]

theorem resolve_obj {consumer : String} {members : List (String × Json)}
    (h : Value.ofJson? (.obj members) = none) :
    resolve consumer (.obj members) = .obj (resolveMembers consumer members) := by
  rw [resolve, h]

theorem resolveItems_eq_map (consumer : String) (items : List Json) :
    resolveItems consumer items = items.map (resolve consumer) := by
  induction items with
  | nil => rfl
  | cons first rest ih => rw [resolveItems, ih, List.map_cons]

/-- The members that are null hold nothing, so leaving them out changes nothing. -/
theorem flatMap_resolveMembers {consumer : String} {members : List (String × Json)}
    (hKeys : ∀ member ∈ members, member.1 ∉ Property.reservedKeys) :
    (resolveMembers consumer members).flatMap placeholdersIn =
      members.flatMap fun member => (resolve consumer member.2).placeholders := by
  induction members with
  | nil => rfl
  | cons first rest ih =>
      obtain ⟨hFirst, hRest⟩ := List.forall_mem_cons.mp hKeys
      obtain ⟨key, json⟩ := first
      have hKey : ∀ json, placeholdersIn (key, json) = json.placeholders := fun json =>
        placeholdersIn_eq (by simp at hFirst; tauto)
      cases json with
      | null => rw [resolveMembers, List.flatMap_cons, ih hRest]; rfl
      | _ =>
          rw [resolveMembers, List.flatMap_cons, List.flatMap_cons, ih hRest, hKey]
          simp

/-- Plain data stands in a template as it stands in the declaration. -/
theorem resolve_plain (consumer : String) {json : Json} (h : Property.IsPlain json) :
    resolve consumer json = json := by
  cases h with
  | null | bool b | nat n | str s => rfl
  | peer p =>
      cases p <;>
        rw [Peer.toJson, object_singleton, resolve_obj (Value.ofJson?_eq_none (by simp))] <;> rfl
  | ports range =>
      rw [PortRange.toJson_eq, resolve_obj (Value.ofJson?_eq_none (by simp))]
      rfl

theorem placeholders_resolve_plain (consumer : String) {json : Json}
    (h : Property.IsPlain json) : (resolve consumer json).placeholders = [] := by
  rw [resolve_plain consumer h]
  cases h with
  | null | bool b | nat n | str s => rfl
  | peer p => cases p <;> rfl
  | ports range => rw [PortRange.toJson_eq]; rfl

/-- The induction is on the tree. What is not a value there must not look like one: this is where
the reserved keys matter, also as keys of maps. -/
theorem placeholders_resolve_perm (consumer : String) {p : Property}
    (h : p.IsDeclared (· ∉ Property.reservedKeys)) :
    (resolve consumer p.toJson).placeholders.Perm (p.references.map (ofReference consumer)) := by
  induction h with
  | data h =>
      rw [Property.toJson, placeholders_resolve_plain consumer h, Property.references_data,
        List.map_nil]
  | value v =>
      rw [Property.toJson, resolve_toJson, placeholders_value, Property.references_value]
  | @list items h ih =>
      rw [Property.toJson, resolve, resolveItems_eq_map, placeholders_arr,
        Property.toJsons_eq_map, List.map_map, List.flatMap_map, Property.references,
        Property.referencesOf_eq_flatMap, List.map_flatMap]
      exact List.Perm.flatMap_left items ih
  | @record fields h hFields ih =>
      have hNodup : ((Property.fieldsToJson fields).map Prod.fst).Nodup := by
        rw [Property.fieldsToJson_eq_map, List.map_map]
        exact h.nodup_keys
      obtain ⟨entries, hObject, hPerm⟩ := object_eq_perm hNodup
      have hKeys : ∀ member ∈ entries, member.1 ∉ Property.reservedKeys := by
        intro member hMem
        rw [hPerm.mem_iff, Property.fieldsToJson_eq_map] at hMem
        obtain ⟨field, hField, rfl⟩ := List.mem_map.mp hMem
        exact h.not_mem_reservedKeys hField
      have hNoValue : Value.ofJson? (.obj entries) = none :=
        Value.ofJson?_eq_none fun member hMem hValue =>
          hKeys member hMem (by simp at hValue ⊢; tauto)
      rw [Property.toJson, hObject, resolve_obj hNoValue, placeholders_obj,
        flatMap_resolveMembers hKeys, Property.references_record, List.map_flatMap]
      refine (hPerm.flatMap_right _).trans ?_
      rw [Property.fieldsToJson_eq_map, List.flatMap_map]
      exact List.Perm.flatMap_left fields ih

end Intrinsic

end Blueprint
