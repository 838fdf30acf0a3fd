import Blueprint.Proofs.Check
import Blueprint.Proofs.Topology.Construction
import Blueprint.Proofs.Topology.References

/-! What the check of a single topology accepts. Repeated identifiers cannot arise by the
operations of a topology, so for topologies made that way only the references count. -/

namespace Blueprint

theorem ResourceId.text_injective : Function.Injective ResourceId.text := by
  rintro ⟨a, ha⟩ ⟨b, hb⟩ rfl
  rfl

namespace Topology

theorem firstRepeated?_eq_none_iff {α : Type} [BEq α] [LawfulBEq α] {seen items : List α} :
    firstRepeated? seen items = none ↔ items.Nodup ∧ ∀ a ∈ items, a ∉ seen := by
  induction items generalizing seen with
  | nil => simp [firstRepeated?]
  | cons first rest ih =>
      unfold firstRepeated?
      split
      next hSeen => simp [List.elem_iff.mp hSeen]
      next hNew =>
        have hFirst : first ∉ seen := fun hMem => hNew (List.elem_iff.mpr hMem)
        rw [ih, List.nodup_cons, List.forall_mem_cons]
        constructor
        · rintro ⟨hNodup, hRest⟩
          refine ⟨⟨fun hMem => hRest first hMem (List.mem_cons_self ..), hNodup⟩, hFirst, ?_⟩
          exact fun a hMem hSeen => hRest a hMem (List.mem_cons_of_mem _ hSeen)
        · rintro ⟨⟨hAbsent, hNodup⟩, -, hRest⟩
          refine ⟨hNodup, fun a hMem hCons => ?_⟩
          rcases List.mem_cons.mp hCons with rfl | hSeen
          · exact hAbsent hMem
          · exact hRest a hMem hSeen

/-- Whether a reference may stand in a topology, as far as the topology itself can tell. -/
structure Admits (t : Topology) (r : Reference) : Prop where
  /-- An own reference points at a declared resource. -/
  own : r.topology = t.name → r.resource ∈ t.resources.map Resource.id
  /-- A foreign one comes from a recorded dependency. -/
  imported : r.topology ≠ t.name → r.topology ∈ t.dependencies
  /-- A foreign one from another region is marked, and the topology allows that. -/
  marked : r.topology ≠ t.name → r.region ≠ t.region →
    r.crossRegion = true ∧ t.crossRegion = true

theorem checkReference_eq_ok_iff {t : Topology} {r : Reference} :
    t.checkReference r = .ok () ↔ t.Admits r := by
  unfold checkReference
  by_cases hOwn : r.topology = t.name
  · rw [if_pos hOwn]
    by_cases hMem : r.resource ∈ t.resources.map Resource.id
    · rw [if_pos (any_id_iff.mpr hMem)]
      exact iff_of_true rfl ⟨fun _ => hMem, fun h => absurd hOwn h, fun h => absurd hOwn h⟩
    · rw [if_neg (mt any_id_iff.mp hMem)]
      exact iff_of_false (fun h => by cases h) fun h => hMem (h.own hOwn)
  · rw [if_neg hOwn]
    by_cases hDependency : r.topology ∈ t.dependencies
    · rw [if_neg (not_not.mpr hDependency)]
      by_cases hCrossing : r.region ≠ t.region ∧ !(r.crossRegion && t.crossRegion)
      · rw [if_pos hCrossing]
        refine iff_of_false (fun h => by cases h) fun h => ?_
        obtain ⟨hMarked, hAllowed⟩ := h.marked hOwn hCrossing.1
        simp [hMarked, hAllowed] at hCrossing
      · rw [if_neg hCrossing]
        refine iff_of_true rfl ⟨fun h => absurd h hOwn, fun _ => hDependency, fun _ hRegion => ?_⟩
        simpa [hRegion] using hCrossing
    · rw [if_pos hDependency]
      exact iff_of_false (fun h => by cases h) fun h => hDependency (h.imported hOwn)

theorem nodup_texts_iff {t : Topology} :
    (t.resources.map fun resource => resource.id.text).Nodup ↔
      (t.resources.map Resource.id).Nodup := by
  rw [← List.nodup_map_iff ResourceId.text_injective, List.map_map]
  rfl

/-- The check of any topology, made by its operations or not. -/
theorem validate_eq_ok_iff {t : Topology} :
    t.validate = .ok () ↔
      (t.resources.map Resource.id).Nodup ∧ (t.outputs.map Output.id).Nodup ∧
        ∀ r ∈ t.embedded, t.Admits r := by
  have hReferences : t.references.forM t.checkReference = .ok () ↔
      ∀ r ∈ t.embedded, t.Admits r := by
    rw [forM_eq_ok_iff]
    simp only [mem_references_iff, checkReference_eq_ok_iff]
  unfold validate
  split
  next id hRepeated =>
    have hNot : ¬ (t.resources.map Resource.id).Nodup := fun hNodup => by
      rw [firstRepeated?_eq_none_iff.mpr ⟨nodup_texts_iff.mpr hNodup, by simp⟩] at hRepeated
      cases hRepeated
    exact iff_of_false (fun h => by cases h) fun h => hNot h.1
  next hResources =>
    have hNodup := nodup_texts_iff.mp (firstRepeated?_eq_none_iff.mp hResources).1
    split
    next id hRepeated =>
      have hNot : ¬ (t.outputs.map Output.id).Nodup := fun hNodup => by
        rw [firstRepeated?_eq_none_iff.mpr ⟨hNodup, by simp⟩] at hRepeated
        cases hRepeated
      exact iff_of_false (fun h => by cases h) fun h => hNot h.2.1
    next hOutputs =>
      rw [hReferences]
      exact ⟨fun h => ⟨hNodup, (firstRepeated?_eq_none_iff.mp hOutputs).1, h⟩, fun h => h.2.2⟩

/-- A crossing is told if it is the first reference that is come across. -/
theorem validate_eq_error_of_crossing {t : Topology} {r : Reference}
    (hResources : (t.resources.map Resource.id).Nodup) (hOutputs : (t.outputs.map Output.id).Nodup)
    (hFirst : t.references.head? = some r) (hForeign : r.topology ≠ t.name)
    (hImported : r.topology ∈ t.dependencies) (hRegion : r.region ≠ t.region)
    (hForbidden : t.crossRegion = false) :
    t.validate = .error (.unmarkedCrossing t.name r.token) := by
  obtain ⟨rest, hReferences⟩ := List.head?_eq_some_iff.mp hFirst
  have hCheck : t.checkReference r = .error (.unmarkedCrossing t.name r.token) := by
    rw [checkReference, if_neg hForeign, if_neg (not_not.mpr hImported), if_pos]
    exact ⟨hRegion, by simp [hForbidden]⟩
  rw [validate, firstRepeated?_eq_none_iff.mpr ⟨nodup_texts_iff.mpr hResources, by simp⟩,
    firstRepeated?_eq_none_iff.mpr ⟨hOutputs, by simp⟩, hReferences]
  exact bind_eq_error_iff.mpr (.inl hCheck)

/-- Nothing is left to check of a topology that its operations made but its references. -/
theorem Built.validate_eq_forM {t : Topology} (h : t.Built) :
    t.validate = t.references.forM t.checkReference := by
  rw [validate, firstRepeated?_eq_none_iff.mpr ⟨nodup_texts_iff.mpr h.nodup_resources, by simp⟩,
    firstRepeated?_eq_none_iff.mpr ⟨h.nodup_outputs, by simp⟩]

theorem checkReference_ne_duplicate (t : Topology) (r : Reference) (topology id : String) :
    t.checkReference r ≠ .error (.duplicateResource topology id) ∧
      t.checkReference r ≠ .error (.duplicateOutput topology id) := by
  unfold checkReference
  split_ifs <;> simp

theorem Built.validate_eq_ok_iff {t : Topology} (h : t.Built) :
    t.validate = .ok () ↔ ∀ r ∈ t.embedded, t.Admits r := by
  rw [Topology.validate_eq_ok_iff]
  exact ⟨fun hValid => hValid.2.2, fun hValid => ⟨h.nodup_resources, h.nodup_outputs, hValid⟩⟩

end Topology

end Blueprint
