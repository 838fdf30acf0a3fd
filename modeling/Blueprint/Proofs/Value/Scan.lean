import Blueprint.Proofs.Json
import Blueprint.Value

/-! Reading the JSON form of a value back, and the references that a scan finds in it. A scan knows
a reference by its shape only, so each statement says for which objects the shape is no accident. -/

namespace Blueprint

theorem ResourceId.ofString?_text (id : ResourceId) : ResourceId.ofString? id.text = some id := by
  obtain ⟨text, hText⟩ := id
  simp [ofString?, hText]

/-- The members of a reference in the order of their keys. -/
theorem Reference.toJson_eq (r : Reference) :
    r.toJson = .obj
      [("attribute", .str r.attr), ("crossRegion", .bool r.crossRegion),
        ("region", .str r.region.name), ("resource", .str r.resource.text),
        ("topology", .str r.topology)] := by
  simp only [toJson, Json.object, Dict.ofList, Dict.insert, insertEntry, Dict.empty,
    List.foldl_cons, List.foldl_nil, String.reduceLT, String.reduceEq, ↓reduceIte]

theorem Reference.ofJson?_toJson (r : Reference) : Reference.ofJson? r.toJson = some r := by
  have hFields : ofFields? (.str r.topology) (.str r.region.name) (.str r.resource.text)
      (.str r.attr) (.bool r.crossRegion) = some r := by
    simp [ofFields?, ResourceId.ofString?_text]
  rw [toJson_eq, ofJson?]
  simpa [Json.member?, lookup_cons_ite] using hFields

/-- An object that names no topology is no reference. -/
theorem Reference.ofJson?_eq_none {members : List (String × Json)}
    (h : (Json.obj members).member? "topology" = none) :
    Reference.ofJson? (.obj members) = none := by
  rw [ofJson?, h]
  rfl

namespace Value

theorem toJson_literal (text : String) :
    (literal text).toJson = .obj [("literal", .str text)] := by
  rw [toJson, Json.object_singleton]

theorem toJson_ref (r : Reference) : (ref r).toJson = .obj [("ref", r.toJson)] := by
  rw [toJson, Json.object_singleton]

theorem toJson_join (separator : String) (parts : List Value) :
    (join separator parts).toJson =
      .obj [("join", .obj [("parts", .arr (toJsons parts)), ("separator", .str separator)])] := by
  simp only [toJson, Json.object, Dict.ofList, Dict.insert, insertEntry, Dict.empty,
    List.foldl_cons, List.foldl_nil, String.reduceLT, ↓reduceIte]

theorem toJson_joinList (separator : String) (list : Value) :
    (joinList separator list).toJson =
      .obj [("joinList", .obj [("list", list.toJson), ("separator", .str separator)])] := by
  simp only [toJson, Json.object, Dict.ofList, Dict.insert, insertEntry, Dict.empty,
    List.foldl_cons, List.foldl_nil, String.reduceLT, ↓reduceIte]

/-- The JSON form of a value has one member, whose key is never a field of a reference. -/
theorem toJson_eq_singleton (v : Value) :
    ∃ kind json, v.toJson = .obj [(kind, json)] ∧
      kind ∈ ["literal", "ref", "join", "joinList"] := by
  cases v with
  | literal text => exact ⟨_, _, toJson_literal text, by simp⟩
  | ref r => exact ⟨_, _, toJson_ref r, by simp⟩
  | join separator parts => exact ⟨_, _, toJson_join separator parts, by simp⟩
  | joinList separator list => exact ⟨_, _, toJson_joinList separator list, by simp⟩

/-- No value is taken for a reference. -/
theorem reference_ofJson?_toJson (v : Value) : Reference.ofJson? v.toJson = none := by
  obtain ⟨kind, json, hJson, hKind⟩ := v.toJson_eq_singleton
  rw [hJson]
  apply Reference.ofJson?_eq_none
  simp only [List.mem_cons, List.not_mem_nil, or_false] at hKind
  rcases hKind with rfl | rfl | rfl | rfl <;>
    simp [Json.member?, lookup_cons_ite]

/-! ### Scanning -/

theorem scanMembers_eq_flatMap (members : List (String × Json)) :
    scanMembers members = members.flatMap fun member => scan member.2 := by
  induction members with
  | nil => rfl
  | cons first rest ih =>
      obtain ⟨key, json⟩ := first
      rw [scanMembers, ih, List.flatMap_cons]

theorem scanItems_eq_flatMap (items : List Json) : scanItems items = items.flatMap scan := by
  induction items with
  | nil => rfl
  | cons first rest ih => rw [scanItems, ih, List.flatMap_cons]

/-- An object that is no reference under `ref` is scanned member by member. -/
theorem scan_obj {members : List (String × Json)}
    (hPlain : ∀ json, members = [("ref", json)] → Reference.ofJson? json = none) :
    scan (.obj members) = members.flatMap fun member => scan member.2 := by
  match members with
  | [] => rfl
  | [(key, json)] =>
      by_cases hKey : key = "ref"
      · subst hKey
        simp [scan, hPlain json rfl]
      · simp [scan, hKey]
  | first :: second :: rest =>
      rw [scan, scanMembers_eq_flatMap]
      simp

theorem scan_ref (r : Reference) : scan (.obj [("ref", r.toJson)]) = [r] := by
  simp [scan, Reference.ofJson?_toJson]

theorem scan_str (text : String) : scan (.str text) = [] := by rw [scan] <;> simp

theorem scan_arr (items : List Json) : scan (.arr items) = items.flatMap scan := by
  rw [scan, scanItems_eq_flatMap]

mutual

/-- A scan finds the references of a value from left to right. -/
theorem scan_toJson (v : Value) : scan v.toJson = v.references := by
  match v with
  | .literal text => rw [toJson_literal, scan_obj (by simp)]; simp [scan_str, references]
  | .ref r => rw [toJson_ref, scan_ref, references]
  | .join separator parts =>
      rw [toJson_join, scan_obj (by simp), List.flatMap_singleton, scan_obj (by simp)]
      simp [scan_arr, scan_str, references, flatMap_scan_toJsons parts]
  | .joinList separator list =>
      rw [toJson_joinList, scan_obj (by simp), List.flatMap_singleton, scan_obj (by simp)]
      simp [scan_str, references, scan_toJson list]

/-- `scan_toJson` on the parts of a join. -/
theorem flatMap_scan_toJsons (parts : List Value) :
    (toJsons parts).flatMap scan = referencesOf parts := by
  match parts with
  | [] => rfl
  | part :: rest =>
      rw [toJsons, List.flatMap_cons, scan_toJson part, flatMap_scan_toJsons rest, referencesOf]

end

end Value

end Blueprint
