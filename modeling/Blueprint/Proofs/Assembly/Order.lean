import Blueprint.Proofs.Assembly.Rendering

/-! The order of topologies. The export plan overwrites an entry when an attribute is used again, so
it remembers the last use; two uses of one attribute can differ in the region that they carry. What
is rendered of an entry is only the attribute, hence templates depend on which uses there are and
not on their order. -/

namespace Blueprint

/-- The attribute of a reference as the topology refers to it itself. -/
def Topology.asOwn (t : Topology) (r : Reference) : Reference := t.reference r.resource r.attr

theorem Topology.asOwn_eq_iff (t : Topology) {r r' : Reference} :
    t.asOwn r = t.asOwn r' ↔ r.resource = r'.resource ∧ r.attr = r'.attr := by
  simp [asOwn, reference]

namespace ExportPlan.HandsOut

variable {plan plan' : ExportPlan} {uses uses' : List (Region × Reference)}
  (h : HandsOut plan uses) (h' : HandsOut plan' uses')

include h h'

section

variable (hUses : ∀ use ∈ uses, use ∈ uses') (t : Topology) {r : Reference}

include hUses

/-- What one plan exports, another one for the same uses exports under the same key. -/
theorem export_found {key : String} (hFind : (plan.exports t.name).get? key = some r) :
    ∃ r', (plan'.exports t.name).get? key = some r' ∧ t.asOwn r = t.asOwn r' := by
  obtain ⟨hTopology, rfl, hUnmarked, region, hMem⟩ := h.exports_used hFind
  obtain ⟨r', hFind'⟩ := h'.exports_found (hUses _ hMem) hUnmarked
  rw [hTopology] at hFind'
  obtain ⟨hTopology', hKey, -⟩ := h'.exports_used hFind'
  exact ⟨r', hFind', t.asOwn_eq_iff.mpr
    ((Reference.exportKey_eq_iff (hTopology.trans hTopology'.symm)).mp hKey.symm)⟩

/-- What one plan writes to a region, another one for the same uses writes under the same path. -/
theorem parameter_found {region path : String} {parameters parameters' : Dict Reference}
    (hRegion : (plan.written t.name).get? region = some parameters)
    (hRegion' : (plan'.written t.name).get? region = some parameters')
    (hFind : parameters.get? path = some r) :
    ∃ r', parameters'.get? path = some r' ∧ t.asOwn r = t.asOwn r' := by
  obtain ⟨hTopology, rfl, hMarked, ⟨_, _⟩, hMem, rfl, rfl⟩ := h.written_used hRegion hFind
  obtain ⟨found, r', hFound, hFind'⟩ := h'.written_found (hUses _ hMem) hMarked
  rw [hTopology, hRegion'] at hFound
  cases hFound
  obtain ⟨hTopology', hPath, -⟩ := h'.written_used hRegion' hFind'
  exact ⟨r', hFind', t.asOwn_eq_iff.mpr
    ((Reference.parameterPath_eq_iff (hTopology.trans hTopology'.symm)).mp hPath.symm)⟩

theorem region_found {region : String} {parameters : Dict Reference}
    (hRegion : (plan.written t.name).get? region = some parameters) :
    ∃ parameters', (plan'.written t.name).get? region = some parameters' := by
  obtain ⟨⟨_, r⟩, hMem, rfl, hTopology, hMarked⟩ := h.regions_used hRegion
  obtain ⟨parameters', -, hFound, -⟩ := h'.written_found (hUses _ hMem) hMarked
  exact ⟨parameters', hTopology ▸ hFound⟩

end

variable (hUses : ∀ use, use ∈ uses ↔ use ∈ uses') (t : Topology)

include hUses

theorem exports_eq : (plan.exports t.name).map t.asOwn = (plan'.exports t.name).map t.asOwn := by
  refine Dict.map_eq_map (fun key r => h.export_found h' (fun use => (hUses use).mp) t)
    fun key r hFind => ?_
  obtain ⟨r', hFind', hSame⟩ := h'.export_found h (fun use => (hUses use).mpr) t hFind
  exact ⟨r', hFind', hSame.symm⟩

theorem written_eq :
    (plan.written t.name).map (Dict.map t.asOwn) =
      (plan'.written t.name).map (Dict.map t.asOwn) := by
  -- The parameters of one region are the same on both sides, as soon as both write to it.
  have hParameters : ∀ region parameters parameters',
      (plan.written t.name).get? region = some parameters →
      (plan'.written t.name).get? region = some parameters' →
        parameters.map t.asOwn = parameters'.map t.asOwn := by
    intro region parameters parameters' hRegion hRegion'
    refine Dict.map_eq_map (fun path r => h.parameter_found h' (fun use => (hUses use).mp) t hRegion
      hRegion') fun path r hFind => ?_
    obtain ⟨r', hFind', hSame⟩ :=
      h'.parameter_found h (fun use => (hUses use).mpr) t hRegion' hRegion hFind
    exact ⟨r', hFind', hSame.symm⟩
  refine Dict.map_eq_map (fun region parameters hRegion => ?_)
    fun region parameters' hRegion' => ?_
  · obtain ⟨parameters', hRegion'⟩ := h.region_found h' (fun use => (hUses use).mp) t hRegion
    exact ⟨parameters', hRegion', hParameters _ _ _ hRegion hRegion'⟩
  · obtain ⟨parameters, hRegion⟩ := h'.region_found h (fun use => (hUses use).mpr) t hRegion'
    exact ⟨parameters, hRegion, hParameters _ _ _ hRegion hRegion'⟩

end ExportPlan.HandsOut

namespace Template

/-! ### What a template reads of the plan -/

theorem exportEntry_asOwn (t : Topology) (key : String) (r : Reference) :
    exportEntry key (t.asOwn r) = exportEntry key r := rfl

theorem writerEntry_asOwn (t : Topology) (region : String) (parameters : Dict Reference) :
    writerEntry region (parameters.map t.asOwn) = writerEntry region parameters := by
  have hWritten : (parameters.map t.asOwn).map Intrinsic.ownAttribute =
      parameters.map Intrinsic.ownAttribute :=
    Dict.ext (List.map_map ..)
  rw [writerEntry, writerEntry, hWritten]

theorem resources_eq (t : Topology) (plan : ExportPlan) :
    resources t plan = .ofList
      (t.resources.map (fun resource => (resource.id.text, resourceEntry t.name resource)) ++
        ((plan.written t.name).map (Dict.map t.asOwn)).entries.map fun entry =>
          writerEntry entry.1 entry.2) := by
  rw [Dict.map, List.map_map]
  simp only [Function.comp_def, writerEntry_asOwn]
  rfl

theorem outputs_eq (t : Topology) (plan : ExportPlan) :
    outputs t plan = .ofList
      (t.outputs.map (outputEntry t.name) ++
        ((plan.exports t.name).map t.asOwn).entries.map fun entry =>
          exportEntry entry.1 entry.2) := by
  rw [Dict.map, List.map_map]
  simp only [Function.comp_def, exportEntry_asOwn]
  rfl

end Template

namespace Assembly

open Blueprint.Template

/-- A template depends on which uses the topologies make of one another, and on nothing else in
other topologies. -/
theorem template_congr {a b : Assembly} (hUses : ∀ use, use ∈ a.uses ↔ use ∈ b.uses)
    (t : Topology) : a.template t = b.template t := by
  have hPlan := ExportPlan.handsOut_collect a
  have hPlan' := ExportPlan.handsOut_collect b
  rw [template, template, ofTopology, ofTopology, resources_eq, resources_eq, outputs_eq,
    outputs_eq, hPlan.exports_eq hPlan' hUses t, hPlan.written_eq hPlan' hUses t]

theorem uses_perm {a b : Assembly} (h : a.topologies.Perm b.topologies) : a.uses.Perm b.uses :=
  h.flatMap_right _

/-- Rearranging the topologies of an assembly changes no template, whatever the topologies and
their references are. -/
theorem ofTopology_collect_of_perm {a b : Assembly} (h : a.topologies.Perm b.topologies)
    (t : Topology) :
    ofTopology t (ExportPlan.collect a) = ofTopology t (ExportPlan.collect b) :=
  template_congr (fun _ => (uses_perm h).mem_iff) t

/-- A topology with a zone and two others that use it, one of them through a reference that names
another region. -/
def disagreeing : Assembly :=
  ⟨[⟨"Base", ⟨"eu-west-1"⟩, false, [],
      [{ id := foreignZone.resource, spec := .hostedZone ⟨"a.org"⟩ }], []⟩,
    ⟨"Web", ⟨"eu-west-1"⟩, false, ["Base"], [], [.exported "Zone" (.ref foreignZone)]⟩,
    ⟨"Mail", .cdnHome, false, ["Base"], [],
      [.exported "Mail" (.ref { foreignZone with region := .cdnHome })]⟩]⟩

/-- The plans of the two orders differ in the reference that they remember, the templates do not
differ. -/
theorem ofTopology_collect_of_perm_disagreeing :
    (ExportPlan.collect disagreeing).exports "Base" ≠
        (ExportPlan.collect ⟨disagreeing.topologies.reverse⟩).exports "Base" ∧
      ∀ t, ofTopology t (ExportPlan.collect disagreeing) =
        ofTopology t (ExportPlan.collect ⟨disagreeing.topologies.reverse⟩) := by
  refine ⟨by decide +kernel, fun t => ?_⟩
  exact ofTopology_collect_of_perm (List.reverse_perm _).symm t

end Assembly

end Blueprint
