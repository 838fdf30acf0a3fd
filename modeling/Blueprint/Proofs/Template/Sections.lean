import Blueprint.Proofs.Assembly.Wiring
import Blueprint.Proofs.Template.Entries
import Blueprint.Proofs.Template.Plan

/-! The sections of a template. An entry can displace another one of its name, so what a section
holds is known only once the names of its entries are known to be different. -/

namespace Blueprint.Template

open Json Placeholder

variable (t : Topology) (plan : ExportPlan)

/-- The members of a template, in the order in which they are put together. -/
def members : List (String × Json) :=
  [("AWSTemplateFormatVersion", .str "2010-09-09"),
    ("Description", .str s!"{t.name} ({t.region.name})"),
    ("Resources", .ofDict (resources t plan))] ++
  entriesOf? "Parameters" (parameters t) ++ entriesOf? "Outputs" (outputs t plan)

theorem nodup_members : ((members t plan).map Prod.fst).Nodup := by
  unfold members entriesOf?
  split <;> split <;> simp

theorem member?_ofTopology (name : String) :
    (ofTopology t plan).member? name = (members t plan).lookup name := by
  rw [← lookup_reverse (nodup_members t plan)]
  exact member?_object _ name

theorem entries_eq_nil {entries : Dict Json} (h : entries.isEmpty = true) : entries.entries = [] :=
  List.isEmpty_iff.mp h

theorem entriesIn_resources :
    entriesIn "Resources" (ofTopology t plan) = (resources t plan).entries := by
  rw [entriesIn, member?_ofTopology]
  simp [members, lookup_cons_ite, ofDict]

theorem lookup_entriesOf? (key name : String) (entries : Dict Json) :
    (entriesOf? name entries).lookup key =
      if key = name then if entries.isEmpty then none else some (.ofDict entries) else none := by
  unfold entriesOf?
  split
  · simp
  · simp [lookup_cons_ite]

section

variable {t plan} {name : String} {entries : Dict Json}
  (hSection : (name, entries) ∈ [("Parameters", parameters t), ("Outputs", outputs t plan)])

include hSection

/-- A section without entries is left out. -/
theorem member?_optional : (ofTopology t plan).member? name =
    if entries.isEmpty then none else some (.ofDict entries) := by
  rw [member?_ofTopology, members, List.lookup_append, List.lookup_append, lookup_entriesOf?,
    lookup_entriesOf?]
  obtain hParameters | hOutputs := List.mem_pair.mp hSection
  · cases hParameters
    simp [lookup_cons_ite]
  · cases hOutputs
    simp [lookup_cons_ite]

/-- Left out or not, it shows the entries that it is made of. -/
theorem entriesIn_optional : entriesIn name (ofTopology t plan) = entries.entries := by
  rw [entriesIn, member?_optional hSection]
  cases hEmpty : entries.isEmpty with
  | true => exact (entries_eq_nil hEmpty).symm
  | false => rfl

end

theorem member?_parameters : (ofTopology t plan).member? "Parameters" =
    if (parameters t).isEmpty then none else some (.ofDict (parameters t)) :=
  member?_optional List.mem_cons_self

theorem entriesIn_parameters :
    entriesIn "Parameters" (ofTopology t plan) = (parameters t).entries :=
  entriesIn_optional List.mem_cons_self

theorem entriesIn_outputs :
    entriesIn "Outputs" (ofTopology t plan) = (outputs t plan).entries :=
  entriesIn_optional (List.mem_cons_of_mem _ List.mem_cons_self)

/-- The names of the entries of two sections are different. -/
structure Distinct : Prop where
  resources : (t.resources.map (fun resource => resource.id.text) ++
    (plan.written t.name).keys.map fun region =>
      "ExportsWriter" ++ Intrinsic.alphanumeric region).Nodup
  outputs : (t.outputs.map Output.id ++ (plan.exports t.name).values.map Intrinsic.exportName).Nodup

variable {t plan}

theorem entries_resources_perm (h : Distinct t plan) :
    (resources t plan).entries.Perm
      (t.resources.map (fun resource => (resource.id.text, resourceEntry t.name resource)) ++
        (plan.written t.name).entries.map fun entry => writerEntry entry.1 entry.2) := by
  refine Dict.entries_ofList_perm ?_
  rw [List.map_append, List.map_map, List.map_map]
  have hNames := h.resources
  rwa [Dict.keys, List.map_map] at hNames

theorem entries_outputs_perm (h : Distinct t plan) :
    (outputs t plan).entries.Perm
      (t.outputs.map (outputEntry t.name) ++
        (plan.exports t.name).entries.map fun entry => exportEntry entry.1 entry.2) := by
  refine Dict.entries_ofList_perm ?_
  rw [List.map_append, List.map_map, List.map_map]
  have hNames := h.outputs
  rwa [Dict.values, List.map_map] at hNames

/-- Of parameters with one name the last one stays, and it is one of those that were listed. -/
theorem mem_entries_parameters {entry : String × Json} (hMem : entry ∈ (parameters t).entries) :
    ∃ r ∈ t.foreignReferences, r.crossRegion = true ∧ parameterEntry r = entry := by
  obtain ⟨r, hFilter, hEntry⟩ := List.mem_map.mp (Dict.mem_of_mem_entries_ofList hMem)
  obtain ⟨hForeign, hMarked⟩ := List.mem_filter.mp hFilter
  exact ⟨r, hForeign, hMarked, hEntry⟩

theorem mem_keys_parameters {r : Reference} (hForeign : r ∈ t.foreignReferences)
    (hMarked : r.crossRegion = true) : Intrinsic.parameterName r ∈ (parameters t).keys := by
  refine Dict.mem_keys_ofList.mpr (List.mem_map.mpr ⟨parameterEntry r, ?_, rfl⟩)
  exact List.mem_map.mpr ⟨r, List.mem_filter.mpr ⟨hForeign, hMarked⟩, rfl⟩

/-! ### What is read from a template -/

theorem exportNames_perm (h : Distinct t plan) :
    ((entriesIn "Outputs" (ofTopology t plan)).filterMap fun entry => exportName? entry.2).Perm
      (t.exportNames ++ (plan.exports t.name).keys) := by
  rw [entriesIn_outputs]
  refine ((entries_outputs_perm h).filterMap _).trans (List.Perm.of_eq ?_)
  rw [List.filterMap_append, List.filterMap_map, List.filterMap_map]
  congr 1
  · exact List.filterMap_congr fun output _ => exportName?_outputEntry t.name output
  · rw [Dict.keys, ← List.filterMap_eq_map]
    exact List.filterMap_congr fun entry _ => exportName?_exportEntry entry.1 entry.2

theorem writes_perm (h : Distinct t plan) :
    ((entriesIn "Resources" (ofTopology t plan)).flatMap fun entry => writes entry.2).Perm
      ((plan.written t.name).entries.flatMap fun region => region.2.entries.map fun entry =>
        (region.1, entry.1, Intrinsic.ownAttribute entry.2)) := by
  rw [entriesIn_resources]
  refine ((entries_resources_perm h).flatMap_right _).trans (List.Perm.of_eq ?_)
  rw [List.flatMap_append, List.flatMap_map, List.flatMap_map]
  simp only [writes_resourceEntry, writes_writerEntry, List.flatMap_eq_nil_iff.mpr,
    implies_true, List.nil_append]

/-- The writers in a template are those that the plan asks for. -/
theorem isWriter_perm (h : Distinct t plan) (hNames : ∀ resource ∈ t.resources,
      ¬ "Exports".toList <+: resource.id.text.toList) :
    ((entriesIn "Resources" (ofTopology t plan)).filter fun entry => IsWriter entry).Perm
      ((plan.written t.name).entries.map fun entry => writerEntry entry.1 entry.2) := by
  have hDeclared : (t.resources.map fun resource =>
      (resource.id.text, resourceEntry t.name resource)).filter (fun entry => IsWriter entry) =
        [] := by
    refine List.filter_eq_nil_iff.mpr (List.forall_mem_map.mpr fun resource hMem => ?_)
    rw [decide_eq_true_iff]
    exact not_isWriter_resourceEntry t.name (hNames resource hMem)
  have hAdded : ((plan.written t.name).entries.map fun entry =>
      writerEntry entry.1 entry.2).filter (fun entry => IsWriter entry) =
        (plan.written t.name).entries.map fun entry => writerEntry entry.1 entry.2 := by
    refine List.filter_eq_self.mpr (List.forall_mem_map.mpr fun entry _ => ?_)
    rw [decide_eq_true_iff]
    exact .inl (kind?_writerEntry _ _)
  rw [entriesIn_resources]
  refine ((entries_resources_perm h).filter _).trans (List.Perm.of_eq ?_)
  rw [List.filter_append, hDeclared, hAdded, List.nil_append]

theorem mem_keys_resources (h : Distinct t plan) {resource : Resource}
    (hMem : resource ∈ t.resources) :
    resource.id.text ∈ (entriesIn "Resources" (ofTopology t plan)).map Prod.fst := by
  rw [entriesIn_resources, ((entries_resources_perm h).map Prod.fst).mem_iff, List.map_append,
    List.map_map]
  exact List.mem_append_left _ (List.mem_map.mpr ⟨resource, hMem, rfl⟩)

theorem flatMap_entriesOf? (name : String) (entries : Dict Json) :
    (entriesOf? name entries).flatMap placeholdersIn = entries.entries.flatMap placeholdersIn := by
  unfold entriesOf?
  split
  next hNone => rw [entries_eq_nil hNone]
  next => rw [List.flatMap_singleton, ofDict, placeholdersIn_obj, placeholders_obj]

/-- A template has one placeholder for each reference of the topology and one for each attribute
that the topology hands out, and no other. -/
theorem placeholders_perm (h : Distinct t plan) (hKeys : ∀ resource ∈ t.resources,
      ∀ key ∈ resource.spec.mapKeys, key ∉ Property.reservedKeys) :
    (ofTopology t plan).placeholders.Perm
      (t.embedded.map (ofReference t.name) ++ (plan.handedOut t.name).map own) := by
  have hResources : ((resources t plan).entries.flatMap placeholdersIn).Perm
      ((t.resources.flatMap fun resource => resource.spec.values.flatMap Value.references).map
          (ofReference t.name) ++
        ((plan.written t.name).values.flatMap Dict.values).map own) := by
    refine ((entries_resources_perm h).flatMap_right _).trans ?_
    rw [List.flatMap_append, List.flatMap_map, List.flatMap_map, List.map_flatMap, List.map_flatMap,
      Dict.values, List.flatMap_map]
    refine List.Perm.append (List.Perm.flatMap_left _ fun resource hMem => ?_)
      (List.Perm.flatMap_left _ fun entry _ => placeholdersIn_writerEntry_perm entry.1 entry.2)
    rw [← Spec.references_eq_flatMap_values]
    exact placeholdersIn_resourceEntry_perm t.name (hKeys resource hMem) resource.id.text
  have hOutputs : ((outputs t plan).entries.flatMap placeholdersIn).Perm
      ((t.outputs.flatMap fun output => output.value.references).map (ofReference t.name) ++
        (plan.exports t.name).values.map own) := by
    refine ((entries_outputs_perm h).flatMap_right _).trans ?_
    rw [List.flatMap_append, List.flatMap_map, List.flatMap_map, List.map_flatMap,
      List.map_eq_flatMap, Dict.values, List.flatMap_map]
    exact List.Perm.append
      (List.Perm.flatMap_left _ fun output _ => placeholdersIn_outputEntry_perm t.name output)
      (List.Perm.flatMap_left _ fun entry _ => placeholdersIn_exportEntry_perm entry.1 entry.2)
  have hParameters : (parameters t).entries.flatMap placeholdersIn = [] := by
    refine List.flatMap_eq_nil_iff.mpr fun entry hMem => ?_
    obtain ⟨r, -, -, rfl⟩ := mem_entries_parameters hMem
    exact placeholdersIn_parameterEntry r
  have hTemplate : (ofTopology t plan).placeholders.Perm
      ((resources t plan).entries.flatMap placeholdersIn ++
        (outputs t plan).entries.flatMap placeholdersIn) := by
    refine (placeholders_object_perm (nodup_members t plan)).trans (List.Perm.of_eq ?_)
    rw [members, List.flatMap_append, List.flatMap_append, flatMap_entriesOf?, flatMap_entriesOf?,
      hParameters, List.append_nil]
    congr 1
    rw [List.flatMap_cons, List.flatMap_cons, List.flatMap_singleton,
      placeholdersIn_eq (by decide), placeholdersIn_eq (by decide), ofDict, placeholdersIn_obj,
      placeholders_obj]
    rfl
  refine hTemplate.trans ((hResources.append hOutputs).trans ?_)
  rw [Topology.embedded, ExportPlan.handedOut, List.map_append, List.map_append,
    List.append_assoc, List.append_assoc]
  exact (List.perm_append_comm_assoc _ _ _).append_left _

end Blueprint.Template
