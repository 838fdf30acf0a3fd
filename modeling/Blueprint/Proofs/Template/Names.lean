import Blueprint.Proofs.Topology.Validity
import Blueprint.Template.Intrinsic

/-! What the names in a template tell. Identifiers are made of letters and digits, so they can be
cut out of a name at its colons or slashes again. -/

namespace Blueprint

/-- What stands before a separator, and what stands behind it, if the first part does not contain
the separator. -/
theorem append_cons_inj {α : Type} {separator : α} {first first' rest rest' : List α}
    (hFirst : separator ∉ first) (hFirst' : separator ∉ first')
    (h : first ++ separator :: rest = first' ++ separator :: rest') :
    first = first' ∧ rest = rest' := by
  induction first generalizing first' with
  | nil =>
      cases first' with
      | nil => exact ⟨rfl, (List.cons.inj h).2⟩
      | cons head' tail' => exact absurd (List.mem_cons.mpr (.inl (List.cons.inj h).1)) hFirst'
  | cons head tail ih =>
      cases first' with
      | nil => exact absurd (List.mem_cons.mpr (.inl (List.cons.inj h).1.symm)) hFirst
      | cons head' tail' =>
          obtain ⟨rfl, hTail⟩ := List.cons.inj h
          obtain ⟨rfl, hRest⟩ := ih (fun hMem => hFirst (List.mem_cons_of_mem _ hMem))
            (fun hMem => hFirst' (List.mem_cons_of_mem _ hMem)) hTail
          exact ⟨rfl, hRest⟩

/-- A name of letters and digits. -/
def IsAlnum (name : String) : Prop := name.toList.all Text.isAlnum = true

instance (name : String) : Decidable (IsAlnum name) := inferInstanceAs (Decidable (_ = true))

theorem IsAlnum.not_mem {name : String} (h : IsAlnum name) {c : Char}
    (hOther : Text.isAlnum c = false) : c ∉ name.toList := by
  intro hMem
  rw [List.all_eq_true.mp h c hMem] at hOther
  cases hOther

theorem IsAlnum.append {a b : String} (ha : IsAlnum a) (hb : IsAlnum b) : IsAlnum (a ++ b) := by
  rw [IsAlnum, String.toList_append, List.all_append, ha, hb, Bool.and_self]

theorem ResourceId.isAlnum (id : ResourceId) : IsAlnum id.text := id.isResourceId.2.2

namespace Reference

/-- The names of topologies, a separator, the identifier, a separator, and the attribute. -/
theorem eq_of_separated {c : Char} (hOther : Text.isAlnum c = false) {r r' : Reference}
    (hName : IsAlnum r.topology) (hName' : IsAlnum r'.topology)
    (h : r.topology.toList ++ c :: (r.resource.text.toList ++ c :: r.attr.toList) =
      r'.topology.toList ++ c :: (r'.resource.text.toList ++ c :: r'.attr.toList)) :
    r.topology = r'.topology ∧ r.resource = r'.resource ∧ r.attr = r'.attr := by
  obtain ⟨hTopology, hRest⟩ := append_cons_inj (hName.not_mem hOther) (hName'.not_mem hOther) h
  obtain ⟨hResource, hAttr⟩ := append_cons_inj (r.resource.isAlnum.not_mem hOther)
    (r'.resource.isAlnum.not_mem hOther) hRest
  exact ⟨String.toList_inj.mp hTopology,
    ResourceId.text_injective (String.toList_inj.mp hResource), String.toList_inj.mp hAttr⟩

theorem toList_exportKey (r : Reference) :
    r.exportKey.toList =
      r.topology.toList ++ ':' :: (r.resource.text.toList ++ ':' :: r.attr.toList) := by
  have hKey : r.exportKey = r.topology ++ ":" ++ r.resource.text ++ ":" ++ r.attr := rfl
  rw [hKey]
  simp

/-- An export key tells the topology, the resource and the attribute. -/
theorem eq_of_exportKey_eq {r r' : Reference} (hName : IsAlnum r.topology)
    (hName' : IsAlnum r'.topology) (h : r.exportKey = r'.exportKey) :
    r.topology = r'.topology ∧ r.resource = r'.resource ∧ r.attr = r'.attr := by
  refine eq_of_separated (c := ':') (by decide) hName hName' ?_
  rw [← toList_exportKey, ← toList_exportKey, h]

/-- For one topology, it tells them whatever the name of the topology is. -/
theorem exportKey_eq_iff {r r' : Reference} (hTopology : r.topology = r'.topology) :
    r.exportKey = r'.exportKey ↔ r.resource = r'.resource ∧ r.attr = r'.attr := by
  refine ⟨fun h => ?_, fun ⟨hResource, hAttr⟩ => ?_⟩
  · rw [← String.toList_inj, toList_exportKey, toList_exportKey, hTopology,
      List.append_right_inj, List.cons_inj_right] at h
    obtain ⟨hResource, hAttr⟩ := append_cons_inj (r.resource.isAlnum.not_mem (by decide))
      (r'.resource.isAlnum.not_mem (by decide)) h
    exact ⟨ResourceId.text_injective (String.toList_inj.mp hResource), String.toList_inj.mp hAttr⟩
  · rw [exportKey, exportKey, hTopology, hResource, hAttr]

theorem two_le_count_exportKey (r : Reference) : 2 ≤ r.exportKey.toList.count ':' := by
  rw [toList_exportKey, List.count_append, List.count_cons_self, List.count_append,
    List.count_cons_self]
  omega

theorem toList_parameterPath (r : Reference) :
    (Intrinsic.parameterPath r).toList =
      "/tierstack/exports/".toList ++
        (r.topology.toList ++ '/' :: (r.resource.text.toList ++ '/' :: r.attr.toList)) := by
  have hPath : Intrinsic.parameterPath r =
      "/tierstack/exports/" ++ r.topology ++ "/" ++ r.resource.text ++ "/" ++ r.attr := rfl
  rw [hPath]
  simp

/-- The path of a parameter tells the topology, the resource and the attribute. -/
theorem eq_of_parameterPath_eq {r r' : Reference} (hName : IsAlnum r.topology)
    (hName' : IsAlnum r'.topology) (h : Intrinsic.parameterPath r = Intrinsic.parameterPath r') :
    r.topology = r'.topology ∧ r.resource = r'.resource ∧ r.attr = r'.attr := by
  refine eq_of_separated (c := '/') (by decide) hName hName' ?_
  apply (List.append_right_inj "/tierstack/exports/".toList).mp
  rw [← toList_parameterPath, ← toList_parameterPath, h]

/-- For one topology, it tells them whatever the name of the topology is. -/
theorem parameterPath_eq_iff {r r' : Reference} (hTopology : r.topology = r'.topology) :
    Intrinsic.parameterPath r = Intrinsic.parameterPath r' ↔
      r.resource = r'.resource ∧ r.attr = r'.attr := by
  rw [← String.toList_inj, toList_parameterPath, toList_parameterPath, hTopology]
  refine ⟨fun h => ?_, fun ⟨hResource, hAttr⟩ => by rw [hResource, hAttr]⟩
  rw [List.append_right_inj, List.append_right_inj, List.cons_inj_right] at h
  obtain ⟨hResource, hAttr⟩ := append_cons_inj (r.resource.isAlnum.not_mem (by decide))
    (r'.resource.isAlnum.not_mem (by decide)) h
  exact ⟨ResourceId.text_injective (String.toList_inj.mp hResource), String.toList_inj.mp hAttr⟩

theorem ownAttribute_congr {r r' : Reference} (hResource : r.resource = r'.resource)
    (hAttr : r.attr = r'.attr) : Intrinsic.ownAttribute r = Intrinsic.ownAttribute r' := by
  rw [Intrinsic.ownAttribute, Intrinsic.ownAttribute, hResource, hAttr]

end Reference

end Blueprint
