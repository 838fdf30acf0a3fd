import Blueprint.Proofs.Resource.Scan
import Blueprint.Topology

/-! The references of a topology. The check of a topology and the export plan both find them by
scanning JSON; they are the references of the values in its declarations and outputs. -/

namespace Blueprint

/-- The references of all values in a topology, read off its typed declarations and outputs. -/
def Topology.embedded (t : Topology) : List Reference :=
  t.resources.flatMap (fun resource => resource.spec.values.flatMap Value.references) ++
    t.outputs.flatMap fun output => output.value.references

theorem Topology.references_perm (t : Topology) : t.references.Perm t.embedded :=
  (List.Perm.flatMap_left _ fun resource _ => resource.spec.scan_toJson_perm).append_right _

theorem Topology.mem_references_iff {t : Topology} {r : Reference} :
    r ∈ t.references ↔ r ∈ t.embedded :=
  t.references_perm.mem_iff

theorem Topology.mem_foreignReferences_iff {t : Topology} {r : Reference} :
    r ∈ t.foreignReferences ↔ r ∈ t.embedded ∧ r.topology ≠ t.name := by
  rw [foreignReferences, List.mem_filter, mem_references_iff]
  simp

theorem Topology.mem_embedded_of_resource {t : Topology} {resource : Resource} {v : Value}
    {r : Reference} (hResource : resource ∈ t.resources) (hValue : v ∈ resource.spec.values)
    (hReference : r ∈ v.references) : r ∈ t.embedded :=
  List.mem_append_left _
    (List.mem_flatMap.mpr ⟨resource, hResource, List.mem_flatMap.mpr ⟨v, hValue, hReference⟩⟩)

/-- The references that a topology uses across regions. -/
def Topology.marked (t : Topology) : List Reference := t.references.filter Reference.crossRegion

theorem Topology.marked_perm (t : Topology) :
    t.marked.Perm (t.embedded.filter Reference.crossRegion) :=
  t.references_perm.filter _

/-- A list of at most one element is in order as it stands. -/
theorem eq_of_perm_of_length_le_one {α : Type} {l l' : List α} (h : l.Perm l')
    (hLength : l'.length ≤ 1) : l = l' := by
  match l', hLength with
  | [], _ => exact h.eq_nil
  | [a], _ => exact List.perm_singleton.mp h

/-- If only references to other topologies are marked, the marks are all on the foreign ones. -/
theorem Topology.filter_foreignReferences {t : Topology}
    (h : ∀ r ∈ t.marked, r.topology ≠ t.name) :
    t.foreignReferences.filter Reference.crossRegion = t.marked := by
  rw [foreignReferences, List.filter_comm]
  exact List.filter_eq_self.mpr fun r hMem => decide_eq_true (h r hMem)

/-- A scan misses no reference and invents none. On the JSON form of a value it finds the
references from left to right; on that of a declaration of any kind, whatever its maps are keyed
with, it finds every embedded reference as often as it is embedded and nothing else. So the
references of a topology are those of its declarations and outputs. -/
theorem scan_finds_embedded_references :
    (∀ v : Value, Value.scan v.toJson = v.references) ∧
      (∀ spec : Spec, (Value.scan spec.toJson).Perm (spec.values.flatMap Value.references)) ∧
        ∀ t : Topology, t.references.Perm t.embedded :=
  ⟨Value.scan_toJson, Spec.scan_toJson_perm, Topology.references_perm⟩

end Blueprint
