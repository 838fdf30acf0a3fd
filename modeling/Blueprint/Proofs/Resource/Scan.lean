import Blueprint.Proofs.Resource.Values
import Blueprint.Proofs.Value.Scan

/-! What a scan finds in the JSON form of a declaration: the references of the embedded values,
each as often as it stands there. JSON objects list their members by key, so the order is lost.
Maps with arbitrary keys need care, since an entry under `ref` has the outer shape of a reference;
its content never has the inner one. -/

namespace Blueprint

open Value

theorem Peer.scan_toJson (p : Peer) : scan p.toJson = [] := by
  cases p <;> simp [Peer.toJson, Json.object_singleton, scan_obj, scan_str]

theorem PortRange.scan_toJson (range : PortRange) : scan range.toJson = [] := by
  rw [PortRange.toJson_eq, scan_obj (by simp)]
  rfl

namespace Property

theorem IsPlain.scan_eq_nil {json : Json} (h : IsPlain json) : scan json = [] := by
  cases h with
  | null | bool b | nat n | str s => rfl
  | peer p => exact p.scan_toJson
  | ports range => exact range.scan_toJson

theorem MountTarget.reference_ofJson? (target : MountTarget) :
    Reference.ofJson? target.property.toJson = none := by
  rw [MountTarget.property, toJson]
  refine Reference.ofJson?_eq_none ((Json.member?_object _ "topology").trans ?_)
  simp [fieldsToJson, lookup_cons_ite]

/-- What stands under `ref` in a declaration is no reference. -/
theorem IsRegular.reference_ofJson? {allowed : String → Prop} {fields : List (String × Property)}
    (h : IsRegular allowed fields) {p : Property} (hMem : ("ref", p) ∈ fields) :
    Reference.ofJson? p.toJson = none := by
  cases h with
  | named h =>
      have hFree := h.2 "ref" (List.mem_map.mpr ⟨_, hMem, rfl⟩)
      exact absurd (by simp [reservedKeys]) hFree
  | texts d hKeys =>
      obtain ⟨entry, -, hEntry⟩ := List.mem_map.mp hMem
      obtain ⟨-, rfl⟩ := Prod.ext_iff.mp hEntry
      rfl
  | values d hKeys =>
      obtain ⟨entry, -, hEntry⟩ := List.mem_map.mp hMem
      obtain ⟨-, rfl⟩ := Prod.ext_iff.mp hEntry
      exact reference_ofJson?_toJson entry.2
  | mountTargets d hKeys =>
      obtain ⟨entry, -, hEntry⟩ := List.mem_map.mp hMem
      obtain ⟨-, rfl⟩ := Prod.ext_iff.mp hEntry
      exact MountTarget.reference_ofJson? entry.2

/-- The induction is on the tree. A record is scanned member by member, because the only object
that is not, a reference under `ref`, is no record of a declaration. -/
theorem scan_perm {allowed : String → Prop} {p : Property} (h : p.IsDeclared allowed) :
    (scan p.toJson).Perm p.references := by
  induction h with
  | data h => rw [toJson, h.scan_eq_nil, references_data]
  | value v => rw [toJson, scan_toJson, references_value]
  | @list items h ih =>
      rw [toJson, scan_arr, toJsons_eq_map, List.flatMap_map, references, referencesOf_eq_flatMap]
      exact List.Perm.flatMap_left items ih
  | @record fields h hFields ih =>
      have hNodup : ((fieldsToJson fields).map Prod.fst).Nodup := by
        rw [fieldsToJson_eq_map, List.map_map]
        exact h.nodup_keys
      obtain ⟨entries, hObject, hPerm⟩ := Json.object_eq_perm hNodup
      have hPlain : ∀ json, entries = [("ref", json)] → Reference.ofJson? json = none := by
        intro json hEntries
        rw [hEntries, fieldsToJson_eq_map] at hPerm
        obtain ⟨⟨key, property⟩, hMem, hField⟩ :=
          List.mem_map.mp (hPerm.subset (List.mem_singleton_self _))
        obtain ⟨rfl, rfl⟩ := Prod.mk.inj hField
        exact h.reference_ofJson? hMem
      rw [toJson, hObject, scan_obj hPlain, references_record]
      refine (hPerm.flatMap_right _).trans ?_
      rw [fieldsToJson_eq_map, List.flatMap_map]
      exact List.Perm.flatMap_left fields ih

end Property

/-- The JSON form of a declaration is scanned like its properties. The name of its kind holds no
reference. -/
theorem Spec.scan_toJson_perm (spec : Spec) :
    (scan spec.toJson).Perm (spec.values.flatMap Value.references) := by
  rw [spec.toJson_eq, scan_obj (by simp), List.flatMap_cons, List.flatMap_singleton, scan_str,
    List.append_nil, ← spec.references_eq_flatMap_values]
  have hDeclared : spec.properties.IsDeclared fun _ => True := Spec.isDeclared fun _ _ => trivial
  exact Property.scan_perm hDeclared

end Blueprint
