import Blueprint.Proofs.Assembly.Rendering

/-! How many entries the sections of a template have. The names of added entries are put together
without separators, so two of them can be the same, or one can be that of a declared entry, and of
entries with one name only the last one stays. A template has an entry for each thing that is
declared or imported exactly when all their names are different. The check of an assembly does not
ask for that. -/

namespace Blueprint

/-- What a topology imports with the mark for another region, each attribute once. -/
def Topology.markedImports (t : Topology) : List (String × ResourceId × String) :=
  ((t.foreignReferences.filter Reference.crossRegion).map fun r =>
    (r.topology, r.resource, r.attr)).dedup

theorem Topology.mem_markedImports_iff {t : Topology} {attr : String × ResourceId × String} :
    attr ∈ t.markedImports ↔
      ∃ r ∈ t.foreignReferences,
        r.crossRegion = true ∧ (r.topology, r.resource, r.attr) = attr := by
  simp only [markedImports, List.mem_dedup, List.mem_map, List.mem_filter, and_assoc]

/-- The names that the parameters of a template are given. -/
def Topology.parameterNames (t : Topology) : List String :=
  t.markedImports.map fun (topology, resource, attr) =>
    Intrinsic.parameterName { topology, region := t.region, resource, attr, crossRegion := true }

namespace Assembly

open Blueprint.Template

/-- The attributes of a topology that others import without the mark, each once. -/
def exportedAttrs (a : Assembly) (producer : String) : List (ResourceId × String) :=
  ((a.uses.filter fun use => use.2.topology = producer ∧ use.2.crossRegion = false).map fun use =>
    (use.2.resource, use.2.attr)).dedup

/-- The regions in which others import attributes of a topology with the mark, each once. -/
def consumerRegions (a : Assembly) (producer : String) : List String :=
  ((a.uses.filter fun use => use.2.topology = producer ∧ use.2.crossRegion = true).map fun use =>
    use.1.name).dedup

/-- The names that the outputs of a template are given. -/
def outputNames (a : Assembly) (t : Topology) : List String :=
  t.outputs.map Output.id ++
    (a.exportedAttrs t.name).map fun (resource, attr) =>
      Intrinsic.exportName (t.reference resource attr)

/-- The names that the resources of a template are given. -/
def resourceNames (a : Assembly) (t : Topology) : List String :=
  t.resources.map (fun resource => resource.id.text) ++
    (a.consumerRegions t.name).map fun region => (writerEntry region .empty).1

/-- A template has an entry for each thing that is declared or imported. -/
structure KeepsEntries (a : Assembly) (t : Topology) : Prop where
  /-- One output for each declared one, and for each attribute that others import unmarked. -/
  outputs : (entriesIn "Outputs" (a.template t)).length =
    t.outputs.length + (a.exportedAttrs t.name).length
  /-- One resource for each declared one, and for each region in which others import marked. -/
  resources : (entriesIn "Resources" (a.template t)).length =
    t.resources.length + (a.consumerRegions t.name).length
  /-- One parameter for each attribute that is imported marked. -/
  parameters : (entriesIn "Parameters" (a.template t)).length = t.markedImports.length

/-! ### What the plan holds, told by the uses alone -/

section

variable {a : Assembly} {producer : String}

theorem mem_exportedAttrs_iff {attr : ResourceId × String} :
    attr ∈ a.exportedAttrs producer ↔
      ∃ region r, (region, r) ∈ a.uses ∧ r.topology = producer ∧ r.crossRegion = false ∧
        (r.resource, r.attr) = attr := by
  simp only [exportedAttrs, List.mem_dedup, List.mem_map, List.mem_filter, decide_eq_true_eq,
    Prod.exists, and_assoc]

theorem mem_consumerRegions_iff {name : String} :
    name ∈ a.consumerRegions producer ↔
      ∃ region r, (region, r) ∈ a.uses ∧ r.topology = producer ∧ r.crossRegion = true ∧
        region.name = name := by
  simp only [consumerRegions, List.mem_dedup, List.mem_map, List.mem_filter, decide_eq_true_eq,
    Prod.exists, and_assoc]

variable (a producer)

/-- Within one topology, an export key tells the attribute, so no key stands for two of them. -/
theorem exportedAttrs_perm :
    (((ExportPlan.collect a).exports producer).values.map fun r => (r.resource, r.attr)).Perm
      (a.exportedAttrs producer) := by
  refine (List.perm_ext_iff_of_nodup ?_ (List.nodup_dedup _)).mpr fun attr => ?_
  · rw [Dict.values, List.map_map]
    refine List.Nodup.map_on (fun entry hEntry entry' hEntry' hSame => ?_)
      (Dict.nodup_keys _).of_map
    obtain ⟨hTopology, hKey, -⟩ := of_mem_exports hEntry
    obtain ⟨hTopology', hKey', -⟩ := of_mem_exports hEntry'
    refine List.inj_on_of_nodup_map (Dict.nodup_keys _) hEntry hEntry' ?_
    rw [← hKey, ← hKey']
    exact (Reference.exportKey_eq_iff (hTopology.trans hTopology'.symm)).mpr (Prod.mk.inj hSame)
  · refine Iff.trans ?_ mem_exportedAttrs_iff.symm
    constructor
    · intro hMem
      obtain ⟨r, hValue, rfl⟩ := List.mem_map.mp hMem
      obtain ⟨⟨key, r⟩, hEntry, rfl⟩ := List.mem_map.mp hValue
      obtain ⟨hTopology, -, hUnmarked, region, hUse⟩ :=
        (ExportPlan.handsOut_collect a).exports_used (Dict.mem_entries_iff_get?.mp hEntry)
      exact ⟨region, r, hUse, hTopology, hUnmarked, rfl⟩
    · rintro ⟨region, r, hUse, rfl, hUnmarked, rfl⟩
      obtain ⟨r', hFind⟩ := (ExportPlan.handsOut_collect a).exports_found hUse hUnmarked
      have hEntry := Dict.mem_entries_iff_get?.mpr hFind
      obtain ⟨hTopology, hKey, -⟩ := of_mem_exports hEntry
      obtain ⟨hResource, hAttr⟩ := (Reference.exportKey_eq_iff hTopology).mp hKey
      refine List.mem_map.mpr ⟨r', List.mem_map.mpr ⟨_, hEntry, rfl⟩, ?_⟩
      rw [hResource, hAttr]

theorem consumerRegions_perm :
    ((ExportPlan.collect a).written producer).keys.Perm (a.consumerRegions producer) := by
  refine (List.perm_ext_iff_of_nodup (Dict.nodup_keys _) (List.nodup_dedup _)).mpr fun name => ?_
  refine Iff.trans ?_ mem_consumerRegions_iff.symm
  constructor
  · intro hKey
    obtain ⟨⟨_, parameters⟩, hEntry, rfl⟩ := List.mem_map.mp hKey
    obtain ⟨⟨region, r⟩, hUse, hRegion, hTopology, hMarked⟩ :=
      (ExportPlan.handsOut_collect a).regions_used (Dict.mem_entries_iff_get?.mp hEntry)
    exact ⟨region, r, hUse, hTopology, hMarked, hRegion⟩
  · rintro ⟨region, r, hUse, rfl, hMarked, rfl⟩
    obtain ⟨parameters, -, hFind, -⟩ := (ExportPlan.handsOut_collect a).written_found hUse hMarked
    exact List.mem_map.mpr ⟨_, Dict.mem_entries_iff_get?.mpr hFind, rfl⟩

end

section

variable (a : Assembly) (t : Topology)

theorem outputNames_perm :
    (t.outputs.map Output.id ++
      ((ExportPlan.collect a).exports t.name).values.map Intrinsic.exportName).Perm
        (a.outputNames t) := by
  have hNames := (exportedAttrs_perm a t.name).map fun (resource, attr) =>
    Intrinsic.exportName (t.reference resource attr)
  rw [List.map_map] at hNames
  exact hNames.append_left _

theorem resourceNames_perm :
    (t.resources.map (fun resource => resource.id.text) ++
      ((ExportPlan.collect a).written t.name).keys.map fun region =>
        "ExportsWriter" ++ Intrinsic.alphanumeric region).Perm (a.resourceNames t) :=
  ((consumerRegions_perm a t.name).map _).append_left _

/-! ### Names of a section -/

theorem names_outputs_perm :
    ((entriesIn "Outputs" (a.template t)).map Prod.fst).Perm (a.outputNames t).dedup := by
  rw [template, entriesIn_outputs]
  refine (Dict.keys_ofList_perm _).trans (List.Perm.dedup ?_)
  rw [List.map_append, List.map_map, List.map_map]
  have hNames := outputNames_perm a t
  rwa [Dict.values, List.map_map] at hNames

theorem names_resources_perm :
    ((entriesIn "Resources" (a.template t)).map Prod.fst).Perm (a.resourceNames t).dedup := by
  rw [template, entriesIn_resources]
  refine (Dict.keys_ofList_perm _).trans (List.Perm.dedup ?_)
  rw [List.map_append, List.map_map, List.map_map]
  have hNames := resourceNames_perm a t
  rwa [Dict.keys, List.map_map] at hNames

theorem names_parameters_perm :
    ((entriesIn "Parameters" (a.template t)).map Prod.fst).Perm t.parameterNames.dedup := by
  rw [template, entriesIn_parameters]
  refine (Dict.keys_ofList_perm _).trans ?_
  refine (List.perm_ext_iff_of_nodup (List.nodup_dedup _) (List.nodup_dedup _)).mpr fun name => ?_
  simp only [Topology.parameterNames, Topology.markedImports, List.mem_dedup, List.mem_map,
    exists_exists_and_eq_and]
  rfl

/-! ### Whether the sections keep all entries -/

/-- A section that repeats no name keeps all its entries, and one that does is shorter than it
should be. -/
theorem keepsEntries_iff_nodup :
    a.KeepsEntries t ↔
      (a.outputNames t).Nodup ∧ (a.resourceNames t).Nodup ∧ t.parameterNames.Nodup := by
  have hOutputs : (a.outputNames t).length =
      t.outputs.length + (a.exportedAttrs t.name).length := by
    rw [outputNames, List.length_append, List.length_map, List.length_map]
  have hResources : (a.resourceNames t).length =
      t.resources.length + (a.consumerRegions t.name).length := by
    rw [resourceNames, List.length_append, List.length_map, List.length_map]
  have hParameters : t.parameterNames.length = t.markedImports.length := List.length_map ..
  rw [← length_dedup_eq_iff, ← length_dedup_eq_iff, ← length_dedup_eq_iff,
    ← (names_outputs_perm a t).length_eq, ← (names_resources_perm a t).length_eq,
    ← (names_parameters_perm a t).length_eq, hOutputs, hResources, hParameters, List.length_map,
    List.length_map, List.length_map]
  exact ⟨fun h => ⟨h.outputs, h.resources, h.parameters⟩,
    fun ⟨hOutputs, hResources, hParameters⟩ => ⟨hOutputs, hResources, hParameters⟩⟩

/-- The entries of each section have the names that are put together for it, each once. So a
template keeps all its entries exactly when none of these names is repeated: when no two imported
attributes, and no two regions of consumers, are given one name, and none is given the name of
something declared. -/
theorem sections_keep_entries_iff :
    ((entriesIn "Outputs" (a.template t)).map Prod.fst).Perm (a.outputNames t).dedup ∧
      ((entriesIn "Resources" (a.template t)).map Prod.fst).Perm (a.resourceNames t).dedup ∧
        ((entriesIn "Parameters" (a.template t)).map Prod.fst).Perm t.parameterNames.dedup ∧
          (a.KeepsEntries t ↔
            (a.outputNames t).Nodup ∧ (a.resourceNames t).Nodup ∧ t.parameterNames.Nodup) :=
  ⟨names_outputs_perm a t, names_resources_perm a t, names_parameters_perm a t,
    keepsEntries_iff_nodup a t⟩

end

/-! ### A clash -/

def zone : Resource := { id := foreignZone.resource, spec := .hostedZone ⟨"example.com"⟩ }

def zoneName : Resource := { id := .lit "ZoneName", spec := .hostedZone ⟨"example.org"⟩ }

/-- A topology with both zones. -/
def zones : Topology := ⟨"Base", ⟨"eu-west-2"⟩, false, [], [zone, zoneName], []⟩

/-- Of the first zone, the attribute whose name begins where the identifier of the second goes
on. -/
def zoneServers : Reference := zones.reference zone.id "NameServers"

/-- Of the second zone, the attribute that is named by the rest. -/
def zoneNameServers : Reference := zones.reference zoneName.id "Servers"

/-- A topology that imports and tells both. -/
def zonesReader : Topology :=
  ⟨"Web", ⟨"eu-west-2"⟩, false, ["Base"], [],
    [⟨"First", .ref zoneServers, none⟩, ⟨"Second", .ref zoneNameServers, none⟩]⟩

def twoZones : Assembly := ⟨[zones, zonesReader]⟩

theorem built_twoZones : ∀ t ∈ twoZones.topologies, t.Built := by
  intro t hMem
  simp only [twoZones, List.mem_cons, List.not_mem_nil, or_false] at hMem
  rcases hMem with rfl | rfl
  · have hFirst : Topology.Built ⟨"Base", ⟨"eu-west-2"⟩, false, [], [zone], []⟩ :=
      (Topology.Built.new "Base" ⟨"eu-west-2"⟩).add rfl
    exact hFirst.add (rfl : Topology.add _ zoneName = .ok zones)
  · have hImported := ((Topology.Built.new "Web" ⟨"eu-west-2"⟩).importRef zoneServers).importRef
      zoneNameServers
    exact hImported.addOutput (Topology.addOutput_eq_ok_iff.mpr ⟨by decide, rfl⟩) |>.addOutput
      (Topology.addOutput_eq_ok_iff.mpr ⟨by decide, rfl⟩)

/-- The check accepts the two topologies, but the first output is displaced by the second, and what
the reader imports under the first key is exported by none. -/
theorem twoZones_loses_export :
    (∀ t ∈ twoZones.topologies, t.Built) ∧ twoZones.validate = .ok () ∧
      ¬ twoZones.KeepsEntries zones ∧
        (zonesReader.region, zoneServers) ∈ twoZones.uses ∧ zoneServers.crossRegion = false ∧
          zoneServers.exportKey ∉
            twoZones.renderedOutputs.filterMap fun output => exportName? output.2.2 := by
  have hClash : ¬ (twoZones.outputNames zones).Nodup := by decide
  refine ⟨built_twoZones, rfl, fun hKeeps => ?_, by decide, rfl, by decide +kernel⟩
  exact hClash ((keepsEntries_iff_nodup twoZones zones).mp hKeeps).1

/-! ### Names that do not clash -/

/-- Names that are apart leave every entry in its place. -/
theorem NamedApart.keepsEntries {a : Assembly} (h : a.NamedApart) (hValid : a.validate = .ok ())
    {t : Topology} (hMem : t ∈ a.topologies) : a.KeepsEntries t := by
  obtain ⟨hWired, hIds⟩ := validate_eq_ok_iff.mp hValid
  have hDistinct := h.distinct hMem (hIds t hMem).1 (hIds t hMem).2
  refine (keepsEntries_iff_nodup a t).mpr ⟨?_, ?_, ?_⟩
  · exact (outputNames_perm a t).nodup_iff.mp hDistinct.outputs
  · exact (resourceNames_perm a t).nodup_iff.mp hDistinct.resources
  · refine List.Nodup.map_on (fun attr hAttr attr' hAttr' hSame => ?_) (List.nodup_dedup _)
    obtain ⟨r, hForeign, hMarked, rfl⟩ := Topology.mem_markedImports_iff.mp hAttr
    obtain ⟨r', hForeign', hMarked', rfl⟩ := Topology.mem_markedImports_iff.mp hAttr'
    obtain ⟨hEmbedded, hOther⟩ := Topology.mem_foreignReferences_iff.mp hForeign
    obtain ⟨hEmbedded', hOther'⟩ := Topology.mem_foreignReferences_iff.mp hForeign'
    have hUse : (t.region, r) ∈ a.uses := mem_uses_iff.mpr ⟨t, hMem, rfl, hEmbedded, hOther⟩
    have hUse' : (t.region, r') ∈ a.uses := mem_uses_iff.mpr ⟨t, hMem, rfl, hEmbedded', hOther'⟩
    have hPath := h.parameters t hMem r hEmbedded r' hEmbedded' hOther hOther' hMarked hMarked'
      hSame
    obtain ⟨hTopology, hResource, hAttr⟩ := Reference.eq_of_parameterPath_eq
      (hWired.isAlnum_of_use h hUse) (hWired.isAlnum_of_use h hUse') hPath
    rw [hTopology, hResource, hAttr]

end Assembly

end Blueprint
