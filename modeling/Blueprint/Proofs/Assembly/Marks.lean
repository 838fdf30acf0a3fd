import Blueprint.Proofs.Assembly.Rendering

/-! What templates have because of other regions: parameters for what is taken from there, and
writers for what is taken there. Both come from the marked references, and from nothing else. -/

namespace Blueprint

open Template

/-- The reference to a resource as it is used in another region. -/
def Topology.markedReference (t : Topology) (id : ResourceId) : Reference :=
  { t.reference id Attribute.self with crossRegion := true }

namespace Template

/-- The writer of one attribute. -/
def writerFor (region : Region) (r : Reference) : String × Json :=
  writerEntry region.name (Dict.empty.insert (Intrinsic.parameterPath r) r)

variable {t : Topology}

theorem parameters_eq (hForeign : ∀ r ∈ t.marked, r.topology ≠ t.name) :
    parameters t = .ofList (t.marked.map parameterEntry) := by
  rw [parameters, Topology.filter_foreignReferences hForeign]

/-- A topology without marked references needs no parameters. -/
theorem member?_parameters_of_nil (plan : ExportPlan) (h : t.marked = []) :
    (ofTopology t plan).member? "Parameters" = none := by
  rw [member?_parameters, parameters_eq (by simp [h]), h]
  rfl

/-- A topology with one marked reference needs one parameter. -/
theorem member?_parameters_of_singleton (plan : ExportPlan) {r : Reference} (h : t.marked = [r])
    (hForeign : r.topology ≠ t.name) :
    (ofTopology t plan).member? "Parameters" = some (.obj [parameterEntry r]) := by
  rw [member?_parameters, parameters_eq (by simpa [h] using hForeign), h]
  rfl

end Template

namespace Assembly

/-- All marked references, each with the name of the topology that uses it. -/
def markedReferences (a : Assembly) : List (String × Reference) :=
  a.topologies.flatMap fun t => t.marked.map fun r => (t.name, r)

/-- The sections of parameters, each with the name of the topology whose template has it. -/
def parameterSections (a : Assembly) : List (String × Json) :=
  a.topologies.flatMap fun t =>
    ((a.template t).member? "Parameters").toList.map fun parameters => (t.name, parameters)

/-- The resources that write to parameters, each with the name of the topology whose template has
it. -/
def exportWriters (a : Assembly) : List (String × String × Json) :=
  a.topologies.flatMap fun t =>
    ((entriesIn "Resources" (a.template t)).filter fun entry => IsWriter entry).map fun entry =>
      (t.name, entry)

/-- The marked references with the regions in which they are used. -/
def markedUses (a : Assembly) : List (Region × Reference) :=
  a.topologies.flatMap fun t => t.marked.map fun r => (t.region, r)

/-- No region is crossed, and no template is prepared for that. -/
structure CrossesNowhere (a : Assembly) : Prop where
  references : a.markedReferences = []
  parameters : a.parameterSections = []
  writers : a.exportWriters = []

variable {a : Assembly}

section

variable (hForeign : ∀ t ∈ a.topologies, ∀ r ∈ t.marked, r.topology ≠ t.name)

include hForeign

theorem filter_uses : (a.uses.filter fun use => use.2.crossRegion) = a.markedUses := by
  rw [uses, markedUses, List.filter_flatMap]
  refine List.flatMap_congr fun t hMem => ?_
  rw [List.filter_map, ← Topology.filter_foreignReferences (hForeign t hMem)]
  rfl

/-- The writers in a template are those for the marked uses of its topology. -/
theorem isWriter_perm (hValid : a.validate = .ok ()) (hNamed : a.NamedApart) {t : Topology}
    (hMem : t ∈ a.topologies) :
    ((entriesIn "Resources" (a.template t)).filter fun entry => IsWriter entry).Perm
      ((ExportPlan.gathered (a.markedUses.filter fun use =>
        use.2.topology = t.name)).entries.map fun entry => writerEntry entry.1 entry.2) := by
  have hIds := (validate_eq_ok_iff.mp hValid).2 t hMem
  rw [← filter_uses hForeign, ← ExportPlan.written_collect]
  exact Template.isWriter_perm (hNamed.distinct hMem hIds.1 hIds.2)
    fun resource hResource => hNamed.resourceNames t hMem resource hResource

/-- For at most one use there is as much of a writer. -/
theorem isWriter_eq_map (hValid : a.validate = .ok ()) (hNamed : a.NamedApart) {t : Topology}
    (hMem : t ∈ a.topologies) {uses : List (Region × Reference)}
    (hUses : (a.markedUses.filter fun use => use.2.topology = t.name) = uses)
    (hFew : uses.length ≤ 1) :
    ((entriesIn "Resources" (a.template t)).filter fun entry => IsWriter entry) =
      uses.map fun use => writerFor use.1 use.2 := by
  have hPerm := isWriter_perm hForeign hValid hNamed hMem
  rw [hUses] at hPerm
  match uses, hFew with
  | [], _ => exact hPerm.eq_nil
  | [use], _ => exact List.perm_singleton.mp hPerm

end

/-- Where nothing is marked, no template is prepared for other regions. -/
theorem crossesNowhere_of_unmarked (hValid : a.validate = .ok ()) (hNamed : a.NamedApart)
    (hNone : ∀ t ∈ a.topologies, t.marked = []) : a.CrossesNowhere where
  references := List.flatMap_eq_nil_iff.mpr fun t hMem => by rw [hNone t hMem, List.map_nil]
  parameters := by
    refine List.flatMap_eq_nil_iff.mpr fun t hMem => ?_
    rw [template, member?_parameters_of_nil _ (hNone t hMem)]
    rfl
  writers := by
    have hUses : a.markedUses = [] :=
      List.flatMap_eq_nil_iff.mpr fun t hMem => by rw [hNone t hMem, List.map_nil]
    refine List.flatMap_eq_nil_iff.mpr fun t hMem => ?_
    have hForeign : ∀ t ∈ a.topologies, ∀ r ∈ t.marked, r.topology ≠ t.name := by
      intro t hMem r hMarked
      rw [hNone t hMem] at hMarked
      cases hMarked
    have hFilter : (a.markedUses.filter fun use => use.2.topology = t.name) = [] := by
      rw [hUses, List.filter_nil]
    rw [isWriter_eq_map hForeign hValid hNamed hMem hFilter (by simp)]
    rfl

end Assembly

end Blueprint
