import Blueprint.Proofs.Path.Parts
import Blueprint.Proofs.Template.Names
import Blueprint.Proofs.Template.Sections

/-! The wiring between the templates of an assembly. Producers and consumers compute the names that
connect them each on their own side; here the templates are read back, and every connection is
followed from its one end to the other. -/

namespace Blueprint

/-- The resource that a placeholder names in its own template. -/
def Placeholder.resource? : Placeholder → Option String
  | .ref name => some name
  | .getAtt resource _ => some resource
  | .importValue _ => none

@[simp] theorem Placeholder.resource?_own (r : Reference) :
    (own r).resource? = some r.resource.text := by
  unfold own
  split <;> rfl

namespace Assembly

open Blueprint.Template Placeholder

/-- The template of a topology among those of the assembly. -/
def template (a : Assembly) (t : Topology) : Json := ofTopology t (ExportPlan.collect a)

/-- The outputs of all templates, each with the name of its topology. -/
def renderedOutputs (a : Assembly) : List (String × String × Json) :=
  a.topologies.flatMap fun t =>
    (entriesIn "Outputs" (a.template t)).map fun entry => (t.name, entry)

/-- What all templates write to parameters: the topology, the region, the path and the value. -/
def renderedWrites (a : Assembly) : List (String × String × String × Json) :=
  a.topologies.flatMap fun t =>
    ((entriesIn "Resources" (a.template t)).flatMap fun entry => writes entry.2).map
      fun write => (t.name, write)

/-- The wiring between the templates of an assembly is closed and faithful. -/
structure WiringClosed (a : Assembly) : Prop where
  /-- A template holds the placeholders of the references in its topology and, for others, those of
  attributes of its own. -/
  emitted : ∀ t ∈ a.topologies, ∃ handedOut : List Reference,
    (∀ r ∈ handedOut, r.topology = t.name) ∧
      (a.template t).placeholders.Perm (t.embedded.map (ofReference t.name) ++ handedOut.map own)
  /-- What is imported is exported once, by the topology that is meant, with the attribute that is
  meant. -/
  imports : ∀ t ∈ a.topologies, ∀ r ∈ t.embedded, r.topology ≠ t.name → r.crossRegion = false →
    ∃ entry : String × Json,
      (a.renderedOutputs.filter fun output => exportName? output.2.2 = some r.exportKey) =
        [(r.topology, entry)] ∧
      entry.2.member? "Value" = some (Intrinsic.ownAttribute r)
  /-- What is read from a parameter of another region is written there once, by the topology that is
  meant, with the attribute that is meant. -/
  parameters : ∀ t ∈ a.topologies, ∀ r ∈ t.embedded, r.topology ≠ t.name → r.crossRegion = true →
    (∃ parameter, (Intrinsic.parameterName r, parameter) ∈ entriesIn "Parameters" (a.template t) ∧
      defaultPath? parameter = some (Intrinsic.parameterPath r)) ∧
    (a.renderedWrites.filter fun write => write.2.2.1 = Intrinsic.parameterPath r) =
      [(r.topology, t.region.name, Intrinsic.parameterPath r, Intrinsic.ownAttribute r)]
  /-- All other placeholders name resources of their own template. -/
  resources : ∀ t ∈ a.topologies, ∀ p ∈ (a.template t).placeholders,
    (∃ r ∈ t.embedded, r.topology ≠ t.name ∧ p = ofReference t.name r) ∨
      ∃ name, p.resource? = some name ∧
        name ∈ (entriesIn "Resources" (a.template t)).map Prod.fst
  /-- No two outputs of any templates have the same export name. -/
  exports : (a.renderedOutputs.filterMap fun output => exportName? output.2.2).Nodup

/-- The names in an assembly leave room for those that rendering adds, and what is added for
different attributes has different names. -/
structure NamedApart (a : Assembly) : Prop where
  topologies : ∀ t ∈ a.topologies, IsAlnum t.name
  mapKeys : ∀ t ∈ a.topologies, ∀ resource ∈ t.resources, ∀ key ∈ resource.spec.mapKeys,
    key ∉ Property.reservedKeys
  resourceNames : ∀ t ∈ a.topologies, ∀ resource ∈ t.resources,
    ¬ "Exports".toList <+: resource.id.text.toList
  outputNames : ∀ t ∈ a.topologies, ∀ output ∈ t.outputs, ¬ "Exports".toList <+: output.id.toList
  exportNames : ∀ t ∈ a.topologies, ∀ name ∈ t.exportNames, name.toList.count ':' ≤ 1
  /-- Attributes that one topology exports under one name are the same. -/
  exported : ∀ use ∈ a.uses, ∀ use' ∈ a.uses, use.2.topology = use'.2.topology →
    Intrinsic.exportName use.2 = Intrinsic.exportName use'.2 → use.2.exportKey = use'.2.exportKey
  /-- A topology is used in at most one other region. -/
  regions : ∀ use ∈ a.uses, ∀ use' ∈ a.uses, use.2.topology = use'.2.topology →
    use.2.crossRegion = true → use'.2.crossRegion = true → use.1 = use'.1
  /-- Attributes that a topology reads from one parameter are the same. -/
  parameters : ∀ t ∈ a.topologies, ∀ r ∈ t.embedded, ∀ r' ∈ t.embedded,
    r.topology ≠ t.name → r'.topology ≠ t.name → r.crossRegion = true → r'.crossRegion = true →
      Intrinsic.parameterName r = Intrinsic.parameterName r' →
        Intrinsic.parameterPath r = Intrinsic.parameterPath r'

variable {a : Assembly}

/-- What is used is declared by a topology of the assembly. -/
theorem WellWired.declared_of_use (h : a.WellWired) {use : Region × Reference}
    (hUse : use ∈ a.uses) :
    ∃ p ∈ a.topologies, p.name = use.2.topology ∧ use.2.resource ∈ p.resources.map Resource.id := by
  obtain ⟨t, hMem, -, hEmbedded, hForeign⟩ := mem_uses_iff.mp hUse
  obtain ⟨before, after, hSplit⟩ := List.append_of_mem hMem
  obtain ⟨p, hBefore, hName, hDeclared⟩ :=
    (h.fits before t after hSplit).declared use.2 hEmbedded hForeign
  exact ⟨p, by rw [hSplit]; exact List.mem_append_left _ hBefore, hName, hDeclared⟩

theorem WellWired.eq_of_name_eq (h : a.WellWired) {t t' : Topology} (hMem : t ∈ a.topologies)
    (hMem' : t' ∈ a.topologies) (hName : t.name = t'.name) : t = t' :=
  List.inj_on_of_nodup_map h.names hMem hMem' hName

theorem WellWired.isAlnum_of_use (h : a.WellWired) (hNamed : a.NamedApart)
    {use : Region × Reference} (hUse : use ∈ a.uses) : IsAlnum use.2.topology := by
  obtain ⟨p, hMem, hName, -⟩ := h.declared_of_use hUse
  exact hName ▸ hNamed.topologies p hMem

/-! ### Names within one template -/

theorem isPrefix_append {stem name : String} (h : stem.toList <+: name.toList) (rest : String) :
    stem.toList <+: (name ++ rest).toList := by
  rw [String.toList_append]
  exact h.trans (List.prefix_append _ _)

theorem isPrefix_exportName (r : Reference) :
    "Exports".toList <+: (Intrinsic.exportName r).toList :=
  isPrefix_append (isPrefix_append (by decide) _) _

/-- What is exported is used by another topology, under the key by which it is exported. -/
theorem of_mem_exports {producer : String} {entry : String × Reference}
    (hEntry : entry ∈ ((ExportPlan.collect a).exports producer).entries) :
    entry.2.topology = producer ∧ entry.2.exportKey = entry.1 ∧
      ∃ region, (region, entry.2) ∈ a.uses := by
  obtain ⟨hTopology, hKey, -, hUse⟩ :=
    (ExportPlan.handsOut_collect a).exports_used (Dict.mem_entries_iff_get?.mp hEntry)
  exact ⟨hTopology, hKey, hUse⟩

/-- What is written is used by another topology, under the path to which it is written. -/
theorem of_mem_written {producer : String} {region : String × Dict Reference}
    (hRegion : region ∈ ((ExportPlan.collect a).written producer).entries)
    {entry : String × Reference} (hEntry : entry ∈ region.2.entries) :
    entry.2.topology = producer ∧ Intrinsic.parameterPath entry.2 = entry.1 ∧
      ∃ region, (region, entry.2) ∈ a.uses := by
  obtain ⟨hTopology, hPath, -, ⟨region, _⟩, hUse, -, rfl⟩ :=
    (ExportPlan.handsOut_collect a).written_used (Dict.mem_entries_iff_get?.mp hRegion)
      (Dict.mem_entries_iff_get?.mp hEntry)
  exact ⟨hTopology, hPath, region, hUse⟩

/-- A topology is used in at most one other region, so it needs at most one writer. -/
theorem NamedApart.region_eq (h : a.NamedApart) {producer : String}
    {region region' : String × Dict Reference}
    (hRegion : region ∈ ((ExportPlan.collect a).written producer).entries)
    (hRegion' : region' ∈ ((ExportPlan.collect a).written producer).entries) :
    region.1 = region'.1 := by
  obtain ⟨use, hUse, hName, hTopology, hMarked⟩ :=
    (ExportPlan.handsOut_collect a).regions_used (Dict.mem_entries_iff_get?.mp hRegion)
  obtain ⟨use', hUse', hName', hTopology', hMarked'⟩ :=
    (ExportPlan.handsOut_collect a).regions_used (Dict.mem_entries_iff_get?.mp hRegion')
  rw [← hName, ← hName',
    h.regions use hUse use' hUse' (hTopology.trans hTopology'.symm) hMarked hMarked']

/-- Attributes that a topology exports under one output name are the same. -/
theorem NamedApart.export_eq (h : a.NamedApart) {producer : String}
    {entry entry' : String × Reference}
    (hEntry : entry ∈ ((ExportPlan.collect a).exports producer).entries)
    (hEntry' : entry' ∈ ((ExportPlan.collect a).exports producer).entries)
    (hName : Intrinsic.exportName entry.2 = Intrinsic.exportName entry'.2) : entry = entry' := by
  obtain ⟨hTopology, hKey, region, hUse⟩ := of_mem_exports hEntry
  obtain ⟨hTopology', hKey', region', hUse'⟩ := of_mem_exports hEntry'
  have hSame : entry.2.exportKey = entry'.2.exportKey :=
    h.exported (region, entry.2) hUse (region', entry'.2) hUse'
      (hTopology.trans hTopology'.symm) hName
  rw [hKey, hKey'] at hSame
  exact List.inj_on_of_nodup_map (Dict.nodup_keys _) hEntry hEntry' hSame

/-- Nothing in a template is displaced by another entry of its name. -/
theorem NamedApart.distinct (hNamed : a.NamedApart) {t : Topology} (hMem : t ∈ a.topologies)
    (hResources : (t.resources.map Resource.id).Nodup)
    (hOutputs : (t.outputs.map Output.id).Nodup) :
    Distinct t (ExportPlan.collect a) where
  resources := by
    refine List.nodup_append'.mpr ⟨?_, ?_, ?_⟩
    · have hTexts := hResources.map ResourceId.text_injective
      rwa [List.map_map] at hTexts
    · refine List.Nodup.map_on (fun region hRegion region' hRegion' _ => ?_) (Dict.nodup_keys _)
      obtain ⟨entry, hEntry, rfl⟩ := List.mem_map.mp hRegion
      obtain ⟨entry', hEntry', rfl⟩ := List.mem_map.mp hRegion'
      exact hNamed.region_eq hEntry hEntry'
    · rintro name hDeclared hWriter
      obtain ⟨resource, hResource, rfl⟩ := List.mem_map.mp hDeclared
      obtain ⟨region, -, hName⟩ := List.mem_map.mp hWriter
      refine hNamed.resourceNames t hMem resource hResource ?_
      rw [← hName]
      exact isPrefix_append (by decide) _
  outputs := by
    refine List.nodup_append'.mpr ⟨hOutputs, ?_, ?_⟩
    · rw [Dict.values, List.map_map]
      refine List.Nodup.map_on (fun entry hEntry entry' hEntry' hSame => ?_)
        (Dict.nodup_keys _).of_map
      exact hNamed.export_eq hEntry hEntry' hSame
    · rintro name hDeclared hExport
      obtain ⟨output, hOutput, rfl⟩ := List.mem_map.mp hDeclared
      obtain ⟨r, -, hName⟩ := List.mem_map.mp hExport
      refine hNamed.outputNames t hMem output hOutput ?_
      rw [← hName]
      exact isPrefix_exportName r

/-- An attribute that is written for its own topology names a resource of the template. -/
theorem own_declared {t : Topology} (hDistinct : Distinct t (ExportPlan.collect a)) {r : Reference}
    (hDeclared : r.resource ∈ t.resources.map Resource.id) :
    ∃ name, (own r).resource? = some name ∧
      name ∈ (entriesIn "Resources" (a.template t)).map Prod.fst := by
  obtain ⟨resource, hResource, hId⟩ := List.mem_map.mp hDeclared
  refine ⟨r.resource.text, resource?_own r, ?_⟩
  rw [← hId]
  exact mem_keys_resources hDistinct hResource

/-! ### Names across templates -/

/-- Lists taken from topologies have nothing in common if what stands in one tells the name of its
topology. -/
theorem WellWired.nodup_flatMap {β : Type} (h : a.WellWired) {f : Topology → List β}
    (hEach : ∀ t ∈ a.topologies, (f t).Nodup)
    (hApart : ∀ t ∈ a.topologies, ∀ t' ∈ a.topologies, ∀ b ∈ f t, b ∈ f t' → t.name = t'.name) :
    (a.topologies.flatMap f).Nodup := by
  refine List.nodup_flatMap.mpr ⟨hEach, ?_⟩
  refine List.Pairwise.imp_of_mem ?_ (List.pairwise_map.mp h.names)
  intro t t' hMem hMem' hNames b hLeft hRight
  exact hNames (hApart t hMem t' hMem' b hLeft hRight)

section

variable (hWired : a.WellWired) (hNamed : a.NamedApart)

include hWired hNamed

theorem nodup_exportKeys :
    (a.topologies.flatMap fun t => ((ExportPlan.collect a).exports t.name).keys).Nodup := by
  refine hWired.nodup_flatMap (fun t _ => Dict.nodup_keys _) fun t _ t' _ key hKey hKey' => ?_
  obtain ⟨entry, hEntry, rfl⟩ := List.mem_map.mp hKey
  obtain ⟨entry', hEntry', hSame⟩ := List.mem_map.mp hKey'
  obtain ⟨hTopology, hFirst, region, hUse⟩ := of_mem_exports hEntry
  obtain ⟨hTopology', hFirst', region', hUse'⟩ := of_mem_exports hEntry'
  obtain ⟨hProducer, -⟩ := Reference.eq_of_exportKey_eq (hWired.isAlnum_of_use hNamed hUse)
    (hWired.isAlnum_of_use hNamed hUse') (by rw [hFirst, hFirst', hSame])
  rw [← hTopology, ← hTopology', hProducer]

/-- The paths that a topology writes to, region by region. -/
theorem nodup_writtenPaths :
    (a.topologies.flatMap fun t => ((ExportPlan.collect a).written t.name).entries.flatMap
      fun region => region.2.keys).Nodup := by
  refine hWired.nodup_flatMap (fun t _ => ?_) fun t _ t' _ path hPath hPath' => ?_
  · refine List.nodup_flatMap.mpr ⟨fun region _ => Dict.nodup_keys _, ?_⟩
    refine List.Pairwise.imp_of_mem ?_
      (List.pairwise_map.mp (Dict.nodup_keys ((ExportPlan.collect a).written t.name)))
    intro region region' hRegion hRegion' hOther
    exact absurd (hNamed.region_eq hRegion hRegion') hOther
  · obtain ⟨region, hRegion, hKey⟩ := List.mem_flatMap.mp hPath
    obtain ⟨region', hRegion', hKey'⟩ := List.mem_flatMap.mp hPath'
    obtain ⟨entry, hEntry, rfl⟩ := List.mem_map.mp hKey
    obtain ⟨entry', hEntry', hSame⟩ := List.mem_map.mp hKey'
    obtain ⟨hTopology, hFirst, region, hUse⟩ := of_mem_written hRegion hEntry
    obtain ⟨hTopology', hFirst', region', hUse'⟩ := of_mem_written hRegion' hEntry'
    obtain ⟨hProducer, -⟩ := Reference.eq_of_parameterPath_eq (hWired.isAlnum_of_use hNamed hUse)
      (hWired.isAlnum_of_use hNamed hUse') (by rw [hFirst, hFirst', hSame])
    rw [← hTopology, ← hTopology', hProducer]

/-! ### From one end of a connection to the other -/

variable (hDistinct : ∀ t ∈ a.topologies, Distinct t (ExportPlan.collect a))

include hDistinct

/-- Declared export names are shorter of colons than those that are added. -/
theorem nodup_renderedExports :
    (a.renderedOutputs.filterMap fun output => exportName? output.2.2).Nodup := by
  have hRendered : (a.renderedOutputs.filterMap fun output => exportName? output.2.2).Perm
      (exportNames a.topologies ++
        a.topologies.flatMap fun t => ((ExportPlan.collect a).exports t.name).keys) := by
    rw [renderedOutputs, List.filterMap_flatMap]
    simp only [List.filterMap_map, Function.comp_def]
    exact (List.Perm.flatMap_left _ fun t hMem => exportNames_perm (hDistinct t hMem)).trans
      (List.flatMap_append_perm _ _ _).symm
  refine hRendered.nodup_iff.mpr (List.nodup_append'.mpr
    ⟨hWired.exports, nodup_exportKeys hWired hNamed, ?_⟩)
  intro name hDeclared hAdded
  obtain ⟨t, hMem, hName⟩ := List.mem_flatMap.mp hDeclared
  obtain ⟨t', -, hKey⟩ := List.mem_flatMap.mp hAdded
  obtain ⟨entry, hEntry, rfl⟩ := List.mem_map.mp hKey
  obtain ⟨-, hExport, -⟩ := of_mem_exports hEntry
  have hFew := hNamed.exportNames t hMem entry.1 hName
  have hMany := entry.2.two_le_count_exportKey
  rw [hExport] at hMany
  omega

theorem nodup_renderedPaths :
    (a.renderedWrites.filterMap fun write => some write.2.2.1).Nodup := by
  have hRendered : (a.renderedWrites.filterMap fun write => some write.2.2.1).Perm
      (a.topologies.flatMap fun t => ((ExportPlan.collect a).written t.name).entries.flatMap
        fun region => region.2.keys) := by
    rw [renderedWrites, List.filterMap_eq_map', List.map_flatMap]
    refine List.Perm.flatMap_left _ fun t hMem => ?_
    rw [List.map_map]
    refine ((writes_perm (hDistinct t hMem)).map _).trans (List.Perm.of_eq ?_)
    rw [List.map_flatMap]
    refine List.flatMap_congr fun region _ => ?_
    rw [List.map_map, Dict.keys]
    rfl
  exact hRendered.nodup_iff.mpr (nodup_writtenPaths hWired hNamed)

theorem import_exported {t : Topology} (hMem : t ∈ a.topologies) {r : Reference}
    (hEmbedded : r ∈ t.embedded) (hForeign : r.topology ≠ t.name)
    (hUnmarked : r.crossRegion = false) :
    ∃ entry : String × Json,
      (a.renderedOutputs.filter fun output => exportName? output.2.2 = some r.exportKey) =
        [(r.topology, entry)] ∧
      entry.2.member? "Value" = some (Intrinsic.ownAttribute r) := by
  have hUse : (t.region, r) ∈ a.uses := mem_uses_iff.mpr ⟨t, hMem, rfl, hEmbedded, hForeign⟩
  obtain ⟨r', hFind⟩ := (ExportPlan.handsOut_collect a).exports_found hUse hUnmarked
  have hPlanned : (r.exportKey, r') ∈ ((ExportPlan.collect a).exports r.topology).entries :=
    Dict.mem_entries_iff_get?.mpr hFind
  obtain ⟨-, hKey, region', hUse'⟩ := of_mem_exports hPlanned
  obtain ⟨-, hResource, hAttr⟩ := Reference.eq_of_exportKey_eq
    (hWired.isAlnum_of_use hNamed hUse') (hWired.isAlnum_of_use hNamed hUse) hKey
  obtain ⟨p, hProducer, hName, -⟩ := hWired.declared_of_use hUse
  have hEntry : exportEntry r.exportKey r' ∈ entriesIn "Outputs" (a.template p) := by
    rw [template, entriesIn_outputs, (entries_outputs_perm (hDistinct p hProducer)).mem_iff]
    refine List.mem_append_right _ (List.mem_map.mpr ⟨(r.exportKey, r'), ?_, rfl⟩)
    rwa [hName]
  have hRendered : (r.topology, exportEntry r.exportKey r') ∈ a.renderedOutputs :=
    List.mem_flatMap.mpr ⟨p, hProducer, List.mem_map.mpr ⟨_, hEntry, by rw [hName]⟩⟩
  refine ⟨exportEntry r.exportKey r', ?_, ?_⟩
  · exact filter_eq_singleton (nodup_renderedExports hWired hNamed hDistinct) hRendered
      (exportName?_exportEntry _ _) fun output => decide_eq_true_iff
  · rw [value_exportEntry, Reference.ownAttribute_congr hResource hAttr]

theorem parameter_written {t : Topology} (hMem : t ∈ a.topologies) {r : Reference}
    (hEmbedded : r ∈ t.embedded) (hForeign : r.topology ≠ t.name) (hMarked : r.crossRegion = true) :
    (a.renderedWrites.filter fun write => write.2.2.1 = Intrinsic.parameterPath r) =
      [(r.topology, t.region.name, Intrinsic.parameterPath r, Intrinsic.ownAttribute r)] := by
  have hUse : (t.region, r) ∈ a.uses := mem_uses_iff.mpr ⟨t, hMem, rfl, hEmbedded, hForeign⟩
  obtain ⟨parameters, r', hRegion, hPath⟩ :=
    (ExportPlan.handsOut_collect a).written_found hUse hMarked
  have hPlanned : (t.region.name, parameters) ∈
      ((ExportPlan.collect a).written r.topology).entries := Dict.mem_entries_iff_get?.mpr hRegion
  have hWritten : (Intrinsic.parameterPath r, r') ∈ parameters.entries :=
    Dict.mem_entries_iff_get?.mpr hPath
  obtain ⟨-, hSame, region', hUse'⟩ := of_mem_written hPlanned hWritten
  obtain ⟨-, hResource, hAttr⟩ := Reference.eq_of_parameterPath_eq
    (hWired.isAlnum_of_use hNamed hUse') (hWired.isAlnum_of_use hNamed hUse) hSame
  obtain ⟨p, hProducer, hName, -⟩ := hWired.declared_of_use hUse
  have hWrite : (t.region.name, Intrinsic.parameterPath r, Intrinsic.ownAttribute r) ∈
      (entriesIn "Resources" (a.template p)).flatMap fun entry => writes entry.2 := by
    rw [template, (writes_perm (hDistinct p hProducer)).mem_iff]
    refine List.mem_flatMap.mpr ⟨_, hName ▸ hPlanned, List.mem_map.mpr ⟨_, hWritten, ?_⟩⟩
    rw [Reference.ownAttribute_congr hResource hAttr]
  have hRendered : (r.topology, t.region.name, Intrinsic.parameterPath r,
      Intrinsic.ownAttribute r) ∈ a.renderedWrites :=
    List.mem_flatMap.mpr ⟨p, hProducer, List.mem_map.mpr ⟨_, hWrite, by rw [hName]⟩⟩
  exact filter_eq_singleton (nodup_renderedPaths hWired hNamed hDistinct) hRendered rfl fun write =>
    by rw [decide_eq_true_iff, Option.some.injEq]

theorem placeholder_closed {t : Topology} (hMem : t ∈ a.topologies) {p : Placeholder}
    (hPlaceholder : p ∈ (a.template t).placeholders) :
    (∃ r ∈ t.embedded, r.topology ≠ t.name ∧ p = ofReference t.name r) ∨
      ∃ name, p.resource? = some name ∧
        name ∈ (entriesIn "Resources" (a.template t)).map Prod.fst := by
  rw [template, (placeholders_perm (hDistinct t hMem) (hNamed.mapKeys t hMem)).mem_iff,
    List.mem_append] at hPlaceholder
  rcases hPlaceholder with hUsed | hHandedOut
  · obtain ⟨r, hEmbedded, rfl⟩ := List.mem_map.mp hUsed
    by_cases hOwn : r.topology = t.name
    · obtain ⟨before, after, hSplit⟩ := List.append_of_mem hMem
      have hDeclared := (hWired.fits before t after hSplit).own r hEmbedded hOwn
      rw [ofReference, if_pos hOwn]
      exact .inr (own_declared (hDistinct t hMem) hDeclared)
    · exact .inl ⟨r, hEmbedded, hOwn, rfl⟩
  · obtain ⟨r, hMemPlan, rfl⟩ := List.mem_map.mp hHandedOut
    obtain ⟨hTopology, use, hUse, rfl⟩ :=
      (ExportPlan.handsOut_collect a).of_mem_handedOut hMemPlan
    obtain ⟨p, hProducer, hName, hDeclared⟩ := hWired.declared_of_use hUse
    rw [hWired.eq_of_name_eq hProducer hMem (hName.trans hTopology)] at hDeclared
    exact .inr (own_declared (hDistinct t hMem) hDeclared)

end

/-- A parameter holds the path of the attribute that is read from it. -/
theorem NamedApart.parameter_found (hNamed : a.NamedApart) {t : Topology} (hMem : t ∈ a.topologies)
    {r : Reference} (hEmbedded : r ∈ t.embedded) (hForeign : r.topology ≠ t.name)
    (hMarked : r.crossRegion = true) :
    ∃ parameter, (Intrinsic.parameterName r, parameter) ∈ entriesIn "Parameters" (a.template t) ∧
      defaultPath? parameter = some (Intrinsic.parameterPath r) := by
  have hReference := Topology.mem_foreignReferences_iff.mpr ⟨hEmbedded, hForeign⟩
  obtain ⟨⟨name, parameter⟩, hEntry, rfl⟩ :=
    List.mem_map.mp (mem_keys_parameters hReference hMarked)
  obtain ⟨r', hReference', hMarked', hSame⟩ := mem_entries_parameters hEntry
  obtain ⟨hEmbedded', hForeign'⟩ := Topology.mem_foreignReferences_iff.mp hReference'
  obtain ⟨hName, rfl⟩ := Prod.mk.inj hSame
  refine ⟨_, by rw [template, entriesIn_parameters]; exact hEntry, ?_⟩
  rw [hNamed.parameters t hMem r hEmbedded r' hEmbedded' hForeign hForeign' hMarked hMarked'
    hName.symm]
  exact defaultPath?_parameterEntry r'

/-- Rendering closes the wiring of every assembly that is accepted, as long as its names are
apart. -/
theorem wiringClosed_of_validate (hValid : a.validate = .ok ()) (hNamed : a.NamedApart) :
    a.WiringClosed := by
  obtain ⟨hWired, hIds⟩ := validate_eq_ok_iff.mp hValid
  have hDistinct : ∀ t ∈ a.topologies, Distinct t (ExportPlan.collect a) := fun t hMem =>
    hNamed.distinct hMem (hIds t hMem).1 (hIds t hMem).2
  exact {
    emitted := fun t hMem => ⟨(ExportPlan.collect a).handedOut t.name,
      fun r hMemPlan => ((ExportPlan.handsOut_collect a).of_mem_handedOut hMemPlan).1,
      placeholders_perm (hDistinct t hMem) (hNamed.mapKeys t hMem)⟩
    imports := fun t hMem r => import_exported hWired hNamed hDistinct hMem
    parameters := fun t hMem r hEmbedded hForeign hMarked =>
      ⟨hNamed.parameter_found hMem hEmbedded hForeign hMarked,
        parameter_written hWired hNamed hDistinct hMem hEmbedded hForeign hMarked⟩
    resources := fun t hMem p => placeholder_closed hWired hNamed hDistinct hMem
    exports := nodup_renderedExports hWired hNamed hDistinct }

/-! ### Files -/

theorem artifact_eq_ok (compact : Bool) {file : String} (hFile : IsRelativePath file)
    (json : Json) :
    artifact compact file json = .ok ⟨⟨file, hFile⟩, encode compact json⟩ := by
  unfold artifact RelativePath.ofString
  rw [dif_pos hFile]
  rfl

theorem isRelativePath_fileName {name : String} (h : IsAlnum name) :
    IsRelativePath (fileName name) := by
  have hFile : (fileName name).toList = name.toList ++ ".template.json".toList :=
    String.toList_append
  apply Path.isRelativePath_of_not_mem
  · rw [hFile, List.mem_append, not_or]
    exact ⟨h.not_mem (by decide), by decide⟩
  · intro hName
    have hShort : (fileName name).toList.length ≤ 2 := by
      simp only [List.mem_cons, List.not_mem_nil, or_false] at hName
      rcases hName with hName | hName | hName <;> simp [hName]
    rw [hFile, List.length_append] at hShort
    simp at hShort

/-- The files of an assembly: its templates in order, then the manifest. -/
theorem NamedApart.render_eq_ok (h : a.NamedApart) (compact : Bool) (metadata : RenderMetadata) :
    ∃ files, a.render compact metadata = .ok files ∧
      files.artifacts.map (fun file => (file.path.text, file.content)) =
        a.topologies.map (fun t => (fileName t.name, encode compact (a.template t))) ++
          [(manifestFile, encode compact (a.manifest metadata))] := by
  have hManifest : IsRelativePath manifestFile := by decide
  have hTemplates : ∃ templates,
      (a.topologies.mapM fun t => artifact compact (fileName t.name) (a.template t)) =
          .ok templates ∧
        templates.map (fun file => (file.path.text, file.content)) =
          a.topologies.map fun t => (fileName t.name, encode compact (a.template t)) :=
    exists_mapM_eq_ok fun t hMem =>
      ⟨_, artifact_eq_ok compact (isRelativePath_fileName (h.topologies t hMem)) _, rfl⟩
  obtain ⟨templates, hRendered, hFiles⟩ := hTemplates
  refine ⟨⟨templates ++ [⟨⟨manifestFile, hManifest⟩, encode compact (a.manifest metadata)⟩]⟩,
    ?_, ?_⟩
  · unfold render
    dsimp only
    rw [bind_eq_ok_iff]
    refine ⟨templates, hRendered, ?_⟩
    rw [artifact_eq_ok compact hManifest]
    rfl
  · rw [List.map_append, hFiles]
    rfl

end Assembly

end Blueprint
