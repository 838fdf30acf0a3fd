import Blueprint.Proofs.Value.Scan

/-! The JSON form of a value denotes that value again, and an object denotes one only under the
four keys that values are written with. -/

namespace Blueprint.Value

mutual

/-- Nothing of a value is lost in its JSON form. -/
theorem ofJson?_toJson (v : Value) : ofJson? v.toJson = some v := by
  match v with
  | .literal text => rw [toJson_literal, ofJson?, if_pos rfl]
  | .ref r =>
      have hRead := Reference.ofJson?_toJson r
      rw [Reference.toJson_eq] at hRead
      rw [toJson_ref, Reference.toJson_eq, ofJson?, if_pos rfl, hRead, Option.map_some]
  | .join separator parts =>
      rw [toJson_join]
      simp [ofJson?, partsIn?, Json.member?, ofItems?_toJsons parts]
  | .joinList separator list =>
      rw [toJson_joinList]
      simp [ofJson?, listIn?, Json.member?, ofJson?_toJson list]

/-- `ofJson?_toJson` on the parts of a join. -/
theorem ofItems?_toJsons (parts : List Value) : ofItems? (toJsons parts) = some parts := by
  match parts with
  | [] => rfl
  | part :: rest => rw [toJsons, ofItems?, ofJson?_toJson part, ofItems?_toJsons rest]

end

theorem ofJson?_singleton_eq_none {kind : String} (json : Json)
    (hKind : kind ∉ ["literal", "ref", "join", "joinList"]) :
    ofJson? (.obj [(kind, json)]) = none := by
  simp only [List.mem_cons, List.not_mem_nil, or_false, not_or] at hKind
  obtain ⟨hLiteral, hRef, hJoin, hJoinList⟩ := hKind
  cases json <;> simp [ofJson?, hLiteral, hRef, hJoin, hJoinList]

theorem ofJson?_many_eq_none (first second : String × Json) (rest : List (String × Json)) :
    ofJson? (.obj (first :: second :: rest)) = none := by
  rw [ofJson?] <;> simp

/-- An object whose keys are none of the four is no value. -/
theorem ofJson?_eq_none {members : List (String × Json)}
    (h : ∀ member ∈ members, member.1 ∉ ["literal", "ref", "join", "joinList"]) :
    ofJson? (.obj members) = none := by
  match members with
  | [] => simp [ofJson?]
  | [(kind, json)] => exact ofJson?_singleton_eq_none json (h _ (List.mem_singleton_self _))
  | first :: second :: rest => exact ofJson?_many_eq_none first second rest

/-- No key makes a value of an object with one member, unless that member could be a reference or
a join. -/
theorem ofJson?_nested_eq_none (kind : String) {members : List (String × Json)}
    (hReference : (Json.obj members).member? "topology" = none)
    (hJoin : (Json.obj members).member? "separator" = none) :
    ofJson? (.obj [(kind, .obj members)]) = none := by
  simp [ofJson?, Reference.ofJson?_eq_none hReference, hJoin]

theorem ofJson?_text_eq_none {kind : String} (text : String) (hKind : kind ≠ "literal") :
    ofJson? (.obj [(kind, .str text)]) = none := by
  rw [ofJson?, if_neg hKind]

/-- Under no key does a value look like a part of another value. -/
theorem ofJson?_toJson_eq_none (kind : String) (v : Value) :
    ofJson? (.obj [(kind, v.toJson)]) = none := by
  obtain ⟨inner, json, hJson, hInner⟩ := v.toJson_eq_singleton
  have hMember : ∀ key ∉ ["literal", "ref", "join", "joinList"],
      (Json.obj [(inner, json)]).member? key = none := by
    intro key hKey
    have hOther : key ≠ inner := fun hSame => hKey (hSame ▸ hInner)
    simp [Json.member?, lookup_cons_ite, hOther]
  rw [hJson]
  exact ofJson?_nested_eq_none kind (hMember _ (by simp)) (hMember _ (by simp))

end Blueprint.Value
