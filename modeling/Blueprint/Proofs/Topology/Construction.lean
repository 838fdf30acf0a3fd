import Blueprint.Topology
import Mathlib.Data.List.Nodup
import Mathlib.Logic.Relation

/-! Topologies as programs make them: an empty topology, to which resources and outputs are added
and into which references are imported. An operation that refuses leaves the topology as it was, so
it adds nothing to what can be reached. -/

namespace Blueprint.Topology

/-- The topology can be made by its operations, in any order and with any arguments. -/
inductive Built : Topology → Prop where
  | new (name : String) (region : Region) : Built (.new name region)
  | allowCrossRegion {t : Topology} (h : Built t) : Built t.allowCrossRegion
  | add {t t' : Topology} {resource : Resource} (h : Built t) (hAdd : t.add resource = .ok t') :
      Built t'
  | addOutput {t t' : Topology} {output : Output} (h : Built t)
      (hAdd : t.addOutput output = .ok t') : Built t'
  | importRef {t : Topology} (reference : Reference) (h : Built t) :
      Built (t.importRef reference).2

theorem any_id_iff {t : Topology} {id : ResourceId} :
    (t.resources.any fun other => other.id = id) = true ↔ id ∈ t.resources.map Resource.id := by
  simp only [List.any_eq_true, decide_eq_true_eq, List.mem_map]

theorem isSome_output?_iff {t : Topology} {id : String} :
    (t.output? id).isSome = true ↔ id ∈ t.outputs.map Output.id := by
  simp only [output?, List.find?_isSome, decide_eq_true_eq, List.mem_map]

/-! ### What an operation leaves behind -/

/-- A resource with a free identifier is declared, and nothing else changes. -/
theorem declareResource_of_free {t : Topology} {resource : Resource}
    (hFree : resource.id ∉ t.resources.map Resource.id) :
    t.declareResource resource =
      (.ok (t.reference resource.id Attribute.self),
        { t with resources := t.resources ++ [resource] }) :=
  if_neg (mt any_id_iff.mp hFree)

/-- A resource with a taken identifier is refused, and nothing changes. -/
theorem declareResource_of_taken {t : Topology} {resource : Resource}
    (hTaken : resource.id ∈ t.resources.map Resource.id) :
    t.declareResource resource = (.error (.duplicateResource t.name resource.id.text), t) :=
  if_pos (any_id_iff.mpr hTaken)

/-- An output with a free identifier is declared, and nothing else changes. -/
theorem declareOutput_of_free {t : Topology} {output : Output}
    (hFree : output.id ∉ t.outputs.map Output.id) :
    t.declareOutput output = (.ok (), { t with outputs := t.outputs ++ [output] }) :=
  if_neg (mt isSome_output?_iff.mp hFree)

/-- An output with a taken identifier is refused, and nothing changes. -/
theorem declareOutput_of_taken {t : Topology} {output : Output}
    (hTaken : output.id ∈ t.outputs.map Output.id) :
    t.declareOutput output = (.error (.duplicateOutput t.name output.id), t) :=
  if_pos (isSome_output?_iff.mpr hTaken)

theorem declareResource_dependencies (t : Topology) (resource : Resource) :
    (t.declareResource resource).2.dependencies = t.dependencies := by
  unfold declareResource
  split <;> rfl

theorem declareOutput_dependencies (t : Topology) (output : Output) :
    (t.declareOutput output).2.dependencies = t.dependencies := by
  unfold declareOutput
  split <;> rfl

theorem add_eq_ok_iff {t t' : Topology} {resource : Resource} :
    t.add resource = .ok t' ↔
      resource.id ∉ t.resources.map Resource.id ∧
        t' = { t with resources := t.resources ++ [resource] } := by
  unfold add
  by_cases hTaken : resource.id ∈ t.resources.map Resource.id
  · simp [-List.mem_map, declareResource_of_taken hTaken, hTaken, Except.map]
  · simp [-List.mem_map, declareResource_of_free hTaken, hTaken, Except.map, eq_comm]

theorem addOutput_eq_ok_iff {t t' : Topology} {output : Output} :
    t.addOutput output = .ok t' ↔
      output.id ∉ t.outputs.map Output.id ∧ t' = { t with outputs := t.outputs ++ [output] } := by
  unfold addOutput
  by_cases hTaken : output.id ∈ t.outputs.map Output.id
  · simp [-List.mem_map, declareOutput_of_taken hTaken, hTaken, Except.map]
  · simp [-List.mem_map, declareOutput_of_free hTaken, hTaken, Except.map, eq_comm]

/-- A reference of the topology itself or of a dependency that is recorded brings no new one. -/
theorem dependOn_of_known {t : Topology} {reference : Reference}
    (h : reference.topology = t.name ∨ reference.topology ∈ t.dependencies) :
    t.dependOn reference = t := if_pos h

/-- A reference that brings a new dependency has it recorded last. -/
theorem dependOn_of_new {t : Topology} {reference : Reference}
    (hForeign : reference.topology ≠ t.name) (hNew : reference.topology ∉ t.dependencies) :
    t.dependOn reference = { t with dependencies := t.dependencies ++ [reference.topology] } :=
  if_neg (not_or.mpr ⟨hForeign, hNew⟩)

@[simp] theorem dependOn_name (t : Topology) (reference : Reference) :
    (t.dependOn reference).name = t.name := by
  unfold dependOn
  split <;> rfl

@[simp] theorem dependOn_region (t : Topology) (reference : Reference) :
    (t.dependOn reference).region = t.region := by
  unfold dependOn
  split <;> rfl

@[simp] theorem dependOn_resources (t : Topology) (reference : Reference) :
    (t.dependOn reference).resources = t.resources := by
  unfold dependOn
  split <;> rfl

@[simp] theorem dependOn_outputs (t : Topology) (reference : Reference) :
    (t.dependOn reference).outputs = t.outputs := by
  unfold dependOn
  split <;> rfl

theorem Built.nodup_resources {t : Topology} (h : Built t) :
    (t.resources.map Resource.id).Nodup := by
  induction h with
  | new name region => exact List.nodup_nil
  | allowCrossRegion h ih => exact ih
  | add h hAdd ih =>
      obtain ⟨hFree, rfl⟩ := add_eq_ok_iff.mp hAdd
      rw [List.map_append]
      exact ih.append (List.nodup_singleton _) (by simpa using hFree)
  | addOutput h hAdd ih =>
      obtain ⟨-, rfl⟩ := addOutput_eq_ok_iff.mp hAdd
      exact ih
  | importRef reference h ih => rwa [Topology.importRef, dependOn_resources]

theorem Built.nodup_outputs {t : Topology} (h : Built t) : (t.outputs.map Output.id).Nodup := by
  induction h with
  | new name region => exact List.nodup_nil
  | allowCrossRegion h ih => exact ih
  | add h hAdd ih =>
      obtain ⟨-, rfl⟩ := add_eq_ok_iff.mp hAdd
      exact ih
  | addOutput h hAdd ih =>
      obtain ⟨hFree, rfl⟩ := addOutput_eq_ok_iff.mp hAdd
      rw [List.map_append]
      exact ih.append (List.nodup_singleton _) (by simpa using hFree)
  | importRef reference h ih => rwa [Topology.importRef, dependOn_outputs]

/-! ### Growing -/

/-- One operation that a topology does not refuse. -/
inductive Step : Topology → Topology → Prop where
  | allowCrossRegion (t : Topology) : Step t t.allowCrossRegion
  | add {t t' : Topology} {resource : Resource} (hAdd : t.add resource = .ok t') : Step t t'
  | addOutput {t t' : Topology} {output : Output} (hAdd : t.addOutput output = .ok t') : Step t t'
  | importRef (t : Topology) (reference : Reference) : Step t (t.importRef reference).2

/-- A later stage of a topology. -/
def Grows : Topology → Topology → Prop := Relation.ReflTransGen Step

/-- The topologies that can be made are the stages of empty ones. -/
theorem built_iff_grows {t : Topology} : Built t ↔ ∃ name region, Grows (.new name region) t := by
  constructor
  · intro h
    induction h with
    | new name region => exact ⟨name, region, .refl⟩
    | allowCrossRegion _ ih =>
        obtain ⟨name, region, hGrows⟩ := ih
        exact ⟨name, region, hGrows.tail (.allowCrossRegion _)⟩
    | add _ hAdd ih =>
        obtain ⟨name, region, hGrows⟩ := ih
        exact ⟨name, region, hGrows.tail (.add hAdd)⟩
    | addOutput _ hAdd ih =>
        obtain ⟨name, region, hGrows⟩ := ih
        exact ⟨name, region, hGrows.tail (.addOutput hAdd)⟩
    | importRef reference _ ih =>
        obtain ⟨name, region, hGrows⟩ := ih
        exact ⟨name, region, hGrows.tail (.importRef _ reference)⟩
  · rintro ⟨name, region, hGrows⟩
    induction hGrows with
    | refl => exact .new name region
    | tail _ hStep ih =>
        cases hStep with
        | allowCrossRegion => exact ih.allowCrossRegion
        | add hAdd => exact ih.add hAdd
        | addOutput hAdd => exact ih.addOutput hAdd
        | importRef => exact ih.importRef _

theorem Step.name_region_eq {t t' : Topology} (h : Step t t') :
    t'.name = t.name ∧ t'.region = t.region := by
  cases h with
  | allowCrossRegion => exact ⟨rfl, rfl⟩
  | add hAdd =>
      obtain ⟨-, rfl⟩ := add_eq_ok_iff.mp hAdd
      exact ⟨rfl, rfl⟩
  | addOutput hAdd =>
      obtain ⟨-, rfl⟩ := addOutput_eq_ok_iff.mp hAdd
      exact ⟨rfl, rfl⟩
  | importRef reference => exact ⟨dependOn_name t reference, dependOn_region t reference⟩

/-- A topology keeps its name and its region for good. -/
theorem Grows.name_region_eq {t t' : Topology} (h : Grows t t') :
    t'.name = t.name ∧ t'.region = t.region := by
  induction h with
  | refl => exact ⟨rfl, rfl⟩
  | tail _ hStep ih =>
      exact ⟨hStep.name_region_eq.1.trans ih.1, hStep.name_region_eq.2.trans ih.2⟩

theorem Step.dependencies_isPrefix {t t' : Topology} (h : Step t t') :
    t.dependencies <+: t'.dependencies := by
  cases h with
  | allowCrossRegion => exact List.prefix_rfl
  | add hAdd =>
      obtain ⟨-, rfl⟩ := add_eq_ok_iff.mp hAdd
      exact List.prefix_rfl
  | addOutput hAdd =>
      obtain ⟨-, rfl⟩ := addOutput_eq_ok_iff.mp hAdd
      exact List.prefix_rfl
  | importRef reference =>
      show t.dependencies <+: (t.dependOn reference).dependencies
      unfold dependOn
      split
      · exact List.prefix_rfl
      · exact List.prefix_append _ _

/-- A dependency stays recorded, at its place. -/
theorem Grows.dependencies_isPrefix {t t' : Topology} (h : Grows t t') :
    t.dependencies <+: t'.dependencies := by
  induction h with
  | refl => exact List.prefix_rfl
  | tail _ hStep ih => exact ih.trans hStep.dependencies_isPrefix

theorem importRef_of_own {t : Topology} {reference : Reference}
    (h : reference.topology = t.name) : t.importRef reference = (.ref reference, t) := by
  rw [importRef, localized, if_pos h, dependOn_of_known (.inl h)]

/-- A reference that has been imported is imported the same way from then on, and nothing changes
by it. -/
theorem importRef_of_grows {t t' : Topology} {reference : Reference}
    (h : Grows (t.importRef reference).2 t') :
    t'.importRef reference = ((t.importRef reference).1, t') := by
  obtain ⟨hName, hRegion⟩ := h.name_region_eq
  rw [importRef, dependOn_name] at hName
  rw [importRef, dependOn_region] at hRegion
  have hLocalized : t'.localized reference = t.localized reference := by
    rw [localized, localized, hName, hRegion]
  have hKnown : reference.topology = t'.name ∨ reference.topology ∈ t'.dependencies := by
    by_cases hOwn : reference.topology = t.name
    · exact .inl (hOwn.trans hName.symm)
    · refine .inr (h.dependencies_isPrefix.subset ?_)
      by_cases hMem : reference.topology ∈ t.dependencies
      · rwa [importRef, dependOn_of_known (.inr hMem)]
      · simp [importRef, dependOn_of_new hOwn hMem]
  rw [importRef, importRef, hLocalized, dependOn_of_known hKnown]

/-- A reference that comes from a stage of the topology, under whatever attribute and however often
it has been imported since. -/
inductive Mints (p : Topology) : Reference → Prop where
  | reference {stage : Topology} (h : Grows stage p) (id : ResourceId) (attr : String) :
      Mints p (stage.reference id attr)
  | withAttr {r : Reference} (h : Mints p r) (attr : String) : Mints p (r.withAttr attr)
  | localized {r : Reference} (h : Mints p r) (t : Topology) : Mints p (t.localized r)

/-- Such a reference names the topology and carries its region. -/
theorem Mints.topology_region_eq {p : Topology} {r : Reference} (h : Mints p r) :
    r.topology = p.name ∧ r.region = p.region := by
  induction h with
  | reference h id attr => exact ⟨h.name_region_eq.1.symm, h.name_region_eq.2.symm⟩
  | withAttr _ _ ih => exact ih
  | localized _ t ih =>
      unfold Topology.localized
      split <;> exact ih

end Blueprint.Topology
