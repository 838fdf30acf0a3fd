import Blueprint.Assembly
import Blueprint.Proofs.Topology.Validity
import Mathlib.Logic.Relation

/-! What the check of an assembly accepts. The check walks the topologies once and remembers those
it has passed and their export names. The statement speaks of all topologies, outputs and
references at once, and holds of assemblies of any length. -/

namespace Blueprint

namespace Topology

/-- The export names of the outputs of a topology. -/
def exportNames (t : Topology) : List String := t.outputs.filterMap Output.exportName

/-- Whether a topology finds in those before it all that it depends on. -/
structure Fits (before : List Topology) (t : Topology) : Prop where
  /-- Every dependency has been declared before. -/
  dependencies : ∀ name ∈ t.dependencies, name ∈ before.map Topology.name
  /-- Every own reference points at a declared resource. -/
  own : ∀ r ∈ t.embedded, r.topology = t.name → r.resource ∈ t.resources.map Resource.id
  /-- Every foreign reference comes from a recorded dependency. -/
  imported : ∀ r ∈ t.embedded, r.topology ≠ t.name → r.topology ∈ t.dependencies
  /-- It points at a resource of the earlier topology of that name. -/
  declared : ∀ r ∈ t.embedded, r.topology ≠ t.name →
    ∃ p ∈ before, p.name = r.topology ∧ r.resource ∈ p.resources.map Resource.id
  /-- If it comes from another region, it is marked, and the topology allows that. -/
  marked : ∀ r ∈ t.embedded, r.topology ≠ t.name → r.region ≠ t.region →
    r.crossRegion = true ∧ t.crossRegion = true

end Topology

namespace Assembly

open Blueprint.Topology

/-- The export names of some topologies, one topology after the other. -/
def exportNames (topologies : List Topology) : List String :=
  topologies.flatMap Topology.exportNames

/-- Names and export names are unique, and every topology fits behind those before it. -/
structure WellWired (a : Assembly) : Prop where
  names : a.names.Nodup
  exports : (exportNames a.topologies).Nodup
  fits : ∀ before t after, a.topologies = before ++ t :: after → t.Fits before

/-! ### One step of the check -/

theorem addExports_eq_ok_iff {exports names result : List String} :
    addExports exports names = .ok result ↔
      (names.Nodup ∧ ∀ name ∈ names, name ∉ exports) ∧ result = names.reverse ++ exports := by
  induction names generalizing exports with
  | nil => simp [addExports, eq_comm]
  | cons first rest ih =>
      unfold addExports
      by_cases hFirst : first ∈ exports
      · rw [if_pos hFirst]
        exact iff_of_false (fun h => by cases h) fun h =>
          h.1.2 first (List.mem_cons_self ..) hFirst
      · rw [if_neg hFirst, ih, List.nodup_cons, List.forall_mem_cons, List.reverse_cons,
          List.append_assoc, List.singleton_append]
        refine and_congr_left fun _ => ?_
        constructor
        · rintro ⟨hNodup, hRest⟩
          refine ⟨⟨fun hMem => hRest first hMem (List.mem_cons_self ..), hNodup⟩, hFirst, ?_⟩
          exact fun name hMem hSeen => hRest name hMem (List.mem_cons_of_mem _ hSeen)
        · rintro ⟨⟨hAbsent, hNodup⟩, -, hRest⟩
          refine ⟨hNodup, fun name hMem hCons => ?_⟩
          rcases List.mem_cons.mp hCons with rfl | hSeen
          · exact hAbsent hMem
          · exact hRest name hMem hSeen

theorem Checked.isSome_topology?_iff {seen : Checked} {name : String} :
    (seen.topology? name).isSome = true ↔ name ∈ seen.earlier.map Topology.name := by
  simp only [Checked.topology?, List.find?_isSome, decide_eq_true_eq, List.mem_map]

theorem Checked.checkForeign_eq_ok_iff {seen : Checked} {r : Reference} :
    seen.checkForeign r = .ok () ↔
      ∃ p, seen.topology? r.topology = some p ∧ r.resource ∈ p.resources.map Resource.id := by
  have hResource : ∀ p : Topology, (p.resource? r.resource.text).isSome = true ↔
      r.resource ∈ p.resources.map Resource.id := fun p => by
    simp only [resource?, List.find?_isSome, decide_eq_true_eq, List.mem_map,
      ResourceId.text_injective.eq_iff]
  unfold Checked.checkForeign
  cases hFind : seen.topology? r.topology with
  | none => simp
  | some p =>
      rw [Option.bind_some]
      cases hDeclared : p.resource? r.resource.text with
      | none =>
          have hAbsent : r.resource ∉ p.resources.map Resource.id := fun hMem => by
            rw [← hResource, hDeclared] at hMem
            cases hMem
          simp [-List.mem_map, hAbsent]
      | some resource =>
          have hMem := (hResource p).mp (by rw [hDeclared]; rfl)
          simp [-List.mem_map, hMem]

/-- What the check knows after the topologies of a list. -/
def Checked.after (before : List Topology) : Checked :=
  ⟨before.reverse, (Assembly.exportNames before).reverse⟩

theorem Checked.mem_names_after {before : List Topology} {name : String} :
    name ∈ (Checked.after before).earlier.map Topology.name ↔ name ∈ before.map Topology.name := by
  rw [Checked.after, List.map_reverse, List.mem_reverse]

/-- Whether the check passes a topology after those before it. -/
structure Passes (before : List Topology) (t : Topology) : Prop where
  valid : t.validate = .ok ()
  dependencies : ∀ name ∈ t.dependencies, name ∈ before.map Topology.name
  foreign : ∀ r ∈ t.embedded, r.topology ≠ t.name →
    ∃ p, (Checked.after before).topology? r.topology = some p ∧
      r.resource ∈ p.resources.map Resource.id
  exports : t.exportNames.Nodup ∧ ∀ name ∈ t.exportNames, name ∉ Assembly.exportNames before
  name : t.name ∉ before.map Topology.name

/-- A step either fails or ends with one more topology known. -/
theorem Checked.step_eq_ok_iff {before : List Topology} {t : Topology} {seen : Checked} :
    (Checked.after before).step t = .ok seen ↔
      Passes before t ∧ seen = Checked.after (before ++ [t]) := by
  have hDependencies : t.dependencies.forM ((Checked.after before).checkDependency t) = .ok () ↔
      ∀ name ∈ t.dependencies, name ∈ before.map Topology.name := by
    rw [forM_eq_ok_iff]
    refine forall₂_congr fun name _ => ?_
    rw [← Checked.mem_names_after, ← Checked.isSome_topology?_iff, Checked.checkDependency]
    split <;> simp_all
  have hForeign : t.foreignReferences.forM (Checked.after before).checkForeign = .ok () ↔
      ∀ r ∈ t.embedded, r.topology ≠ t.name →
        ∃ p, (Checked.after before).topology? r.topology = some p ∧
          r.resource ∈ p.resources.map Resource.id := by
    rw [forM_eq_ok_iff]
    simp only [mem_foreignReferences_iff, Checked.checkForeign_eq_ok_iff, and_imp]
  have hExports : (∀ name ∈ t.exportNames, name ∉ (Checked.after before).exports) ↔
      ∀ name ∈ t.exportNames, name ∉ Assembly.exportNames before := by
    simp only [Checked.after, List.mem_reverse]
  have hName : ((Checked.after before).topology? t.name).isSome = true ↔
      t.name ∈ before.map Topology.name :=
    Checked.isSome_topology?_iff.trans Checked.mem_names_after
  have hAfter : (⟨t :: (Checked.after before).earlier,
      t.exportNames.reverse ++ (Checked.after before).exports⟩ : Checked) =
        Checked.after (before ++ [t]) := by
    simp [Checked.after, Assembly.exportNames]
  unfold Checked.step
  rw [then_eq_ok_iff, then_eq_ok_iff, then_eq_ok_iff, hDependencies, hForeign, bind_eq_ok_iff]
  simp only [addExports_eq_ok_iff]
  constructor
  · rintro ⟨hValid, hBefore, hDeclared, _, ⟨⟨hNodup, hNew⟩, rfl⟩, hLast⟩
    split at hLast
    next hTaken => cases hLast
    next hFree =>
      cases hLast
      exact ⟨⟨hValid, hBefore, hDeclared, ⟨hNodup, hExports.mp hNew⟩, mt hName.mpr hFree⟩, hAfter⟩
  · rintro ⟨⟨hValid, hBefore, hDeclared, ⟨hNodup, hNew⟩, hFree⟩, rfl⟩
    refine ⟨hValid, hBefore, hDeclared, _, ⟨⟨hNodup, hExports.mpr hNew⟩, rfl⟩, ?_⟩
    rw [if_neg (mt hName.mp hFree), ← hAfter]
    rfl

/-! ### The whole check -/

/-- The induction is on the topologies still to come; what the check knows is always
`Checked.after` the topologies it has passed. -/
theorem checkAll_eq_ok_iff {before topologies : List Topology} :
    checkAll (Checked.after before) topologies = .ok () ↔
      ∀ between t later, topologies = between ++ t :: later → Passes (before ++ between) t := by
  induction topologies generalizing before with
  | nil => simp [checkAll]
  | cons first rest ih =>
      rw [checkAll, bind_eq_ok_iff]
      simp only [Checked.step_eq_ok_iff]
      rw [forall_split_cons (P := fun between t => Passes (before ++ between) t)]
      constructor
      · rintro ⟨_, ⟨hFirst, rfl⟩, hRest⟩
        refine ⟨by simpa using hFirst, fun between t later hEq => ?_⟩
        simpa using ih.mp hRest between t later hEq
      · rintro ⟨hFirst, hRest⟩
        refine ⟨_, ⟨by simpa using hFirst, rfl⟩, ih.mpr fun between t later hEq => ?_⟩
        simpa using hRest between t later hEq

theorem validate_eq_ok_iff_passes {a : Assembly} :
    a.validate = .ok () ↔
      ∀ before t after, a.topologies = before ++ t :: after → Passes before t := by
  have hStart : (⟨[], []⟩ : Checked) = Checked.after [] := rfl
  rw [validate, hStart, checkAll_eq_ok_iff]
  simp only [List.nil_append]

/-- Among topologies of different names, a look-up by name finds the one that has it. -/
theorem Checked.topology?_after_eq_some_iff {before : List Topology} {name : String}
    {p : Topology} (hNodup : (before.map Topology.name).Nodup) :
    (Checked.after before).topology? name = some p ↔ p ∈ before ∧ p.name = name := by
  have hReverse : (before.reverse.map Topology.name).Nodup := by
    rw [List.map_reverse]
    exact List.nodup_reverse.mpr hNodup
  constructor
  · intro hFind
    refine ⟨List.mem_reverse.mp (List.mem_of_find?_eq_some hFind), ?_⟩
    simpa using List.find?_some hFind
  · rintro ⟨hMem, rfl⟩
    exact find?_eq_some_of_nodup hReverse (List.mem_reverse.mpr hMem)

/-- Behind topologies of different names, the check passes what fits and brings nothing twice. -/
theorem passes_iff {before : List Topology} {t : Topology}
    (hNodup : (before.map Topology.name).Nodup) :
    Passes before t ↔
      t.validate = .ok () ∧ t.Fits before ∧
        (t.exportNames.Nodup ∧ ∀ name ∈ t.exportNames, name ∉ Assembly.exportNames before) ∧
          t.name ∉ before.map Topology.name := by
  constructor
  · intro h
    have hAdmits := (Topology.validate_eq_ok_iff.mp h.valid).2.2
    refine ⟨h.valid, ⟨h.dependencies, fun r hMem => (hAdmits r hMem).own,
      fun r hMem => (hAdmits r hMem).imported, fun r hMem hForeign => ?_,
      fun r hMem => (hAdmits r hMem).marked⟩, h.exports, h.name⟩
    obtain ⟨p, hFind, hDeclared⟩ := h.foreign r hMem hForeign
    obtain ⟨hBefore, hName⟩ := (Checked.topology?_after_eq_some_iff hNodup).mp hFind
    exact ⟨p, hBefore, hName, hDeclared⟩
  · rintro ⟨hValid, hFits, hExports, hName⟩
    refine ⟨hValid, hFits.dependencies, fun r hMem hForeign => ?_, hExports, hName⟩
    obtain ⟨p, hBefore, hSame, hDeclared⟩ := hFits.declared r hMem hForeign
    exact ⟨p, (Checked.topology?_after_eq_some_iff hNodup).mpr ⟨hBefore, hSame⟩, hDeclared⟩

theorem names_nodup_of_split {a : Assembly} (hNames : a.names.Nodup) {before after : List Topology}
    {t : Topology} (hSplit : a.topologies = before ++ t :: after) :
    (before.map Topology.name).Nodup := by
  rw [names, hSplit, List.map_append] at hNames
  exact (List.nodup_append.mp hNames).1

/-- The check of any assembly. Topologies that their operations could not have made are refused
for their identifiers, and for nothing else that `WellWired` leaves out. -/
theorem validate_eq_ok_iff {a : Assembly} :
    a.validate = .ok () ↔
      a.WellWired ∧ ∀ t ∈ a.topologies,
        (t.resources.map Resource.id).Nodup ∧ (t.outputs.map Output.id).Nodup := by
  rw [validate_eq_ok_iff_passes]
  constructor
  · intro hPasses
    have hNames : a.names.Nodup := nodup_map_iff_split.mpr fun before t after hSplit =>
      (hPasses before t after hSplit).name
    have hFacts := fun before t after hSplit =>
      (passes_iff (names_nodup_of_split hNames hSplit)).mp (hPasses before t after hSplit)
    refine ⟨⟨hNames, nodup_flatMap_iff_split.mpr fun before t after hSplit =>
      (hFacts before t after hSplit).2.2.1, fun before t after hSplit =>
      (hFacts before t after hSplit).2.1⟩, fun t hMem => ?_⟩
    obtain ⟨before, after, hSplit⟩ := List.append_of_mem hMem
    obtain ⟨hResources, hOutputs, -⟩ :=
      Topology.validate_eq_ok_iff.mp (hPasses before t after hSplit).valid
    exact ⟨hResources, hOutputs⟩
  · rintro ⟨hWired, hIds⟩ before t after hSplit
    have hFits := hWired.fits before t after hSplit
    have hMem : t ∈ a.topologies := by rw [hSplit]; simp
    have hAdmits : ∀ r ∈ t.embedded, t.Admits r := fun r hMem =>
      ⟨hFits.own r hMem, hFits.imported r hMem, hFits.marked r hMem⟩
    refine (passes_iff (names_nodup_of_split hWired.names hSplit)).mpr
      ⟨Topology.validate_eq_ok_iff.mpr ⟨(hIds t hMem).1, (hIds t hMem).2, hAdmits⟩, hFits, ?_, ?_⟩
    · exact nodup_flatMap_iff_split.mp hWired.exports before t after hSplit
    · exact nodup_map_iff_split.mp hWired.names before t after hSplit

/-- The first topology that is not accepted by itself decides how the check fails. The induction is
on the accepted ones before it, whatever stood before these. -/
theorem checkAll_eq_error_of_topology {seen : Checked} {before after : List Topology}
    {t : Topology} {e : ModelError} (hBefore : checkAll seen before = .ok ())
    (hError : t.validate = .error e) : checkAll seen (before ++ t :: after) = .error e := by
  induction before generalizing seen with
  | nil => exact bind_eq_error_iff.mpr (.inl (bind_eq_error_iff.mpr (.inl hError)))
  | cons first rest ih =>
      obtain ⟨next, hNext, hRest⟩ := bind_eq_ok_iff.mp hBefore
      exact bind_eq_error_iff.mpr (.inr ⟨next, hNext, ih hRest⟩)

theorem validate_eq_error_of_topology {before after : List Topology} {t : Topology} {e : ModelError}
    (hBefore : validate ⟨before⟩ = .ok ()) (hError : t.validate = .error e) :
    validate ⟨before ++ t :: after⟩ = .error e :=
  checkAll_eq_error_of_topology hBefore hError

/-! ### What follows for accepted assemblies -/

/-- A topology of one name has recorded a dependency on another name. -/
def DependsOn (a : Assembly) (consumer producer : String) : Prop :=
  ∃ t ∈ a.topologies, t.name = consumer ∧ producer ∈ t.dependencies

/-- No topology depends on itself or on one that comes after it. -/
def TopologicallyOrdered (a : Assembly) : Prop :=
  ∀ before t after, a.topologies = before ++ t :: after → ∀ p ∈ t :: after, p.name ∉ t.dependencies

theorem WellWired.topologicallyOrdered {a : Assembly} (h : a.WellWired) :
    a.TopologicallyOrdered := by
  intro before t after hSplit p hLater hDependency
  have hEarlier := (h.fits before t after hSplit).dependencies p.name hDependency
  have hNames := h.names
  rw [Assembly.names, hSplit, List.map_append] at hNames
  exact (List.nodup_append.mp hNames).2.2 _ hEarlier _ (List.mem_map.mpr ⟨p, hLater, rfl⟩) rfl

/-- A dependency has its place in the list before that of its consumer. -/
theorem WellWired.idxOf_lt {a : Assembly} (h : a.WellWired) {consumer producer : String}
    (hDepends : a.DependsOn consumer producer) :
    a.names.idxOf producer < a.names.idxOf consumer := by
  obtain ⟨t, hMem, rfl, hDependency⟩ := hDepends
  obtain ⟨before, after, hSplit⟩ := List.append_of_mem hMem
  have hEarlier := (h.fits before t after hSplit).dependencies producer hDependency
  have hNew := nodup_map_iff_split.mp h.names before t after hSplit
  rw [Assembly.names, hSplit, List.map_append, List.map_cons, List.idxOf_append_of_mem hEarlier,
    List.idxOf_append_of_notMem hNew, List.idxOf_cons_self, Nat.add_zero]
  exact List.idxOf_lt_length_of_mem hEarlier

theorem WellWired.acyclic {a : Assembly} (h : a.WellWired) (name : String) :
    ¬ Relation.TransGen a.DependsOn name name := by
  have hDecreasing : ∀ {consumer producer}, Relation.TransGen a.DependsOn consumer producer →
      a.names.idxOf producer < a.names.idxOf consumer := by
    intro consumer producer hChain
    induction hChain with
    | single hDepends => exact h.idxOf_lt hDepends
    | tail _ hDepends ih => exact Nat.lt_trans (h.idxOf_lt hDepends) ih
  exact fun hCycle => Nat.lt_irrefl _ (hDecreasing hCycle)

theorem exportNames_eq_filterMap_outputs (a : Assembly) :
    exportNames a.topologies = a.outputs.filterMap fun output => output.2.exportName := by
  rw [exportNames, outputs, List.filterMap_flatMap]
  simp only [List.filterMap_map]
  rfl

theorem WellWired.length_candidates_le_one {a : Assembly} (h : a.WellWired) (name : String) :
    (a.outputs.filter fun output => output.2.exportName = some name).length ≤ 1 := by
  have hExports := h.exports
  rw [exportNames_eq_filterMap_outputs] at hExports
  have hCount := List.nodup_iff_count_le_one.mp hExports name
  rw [List.count_filterMap, List.countP_eq_length_filter] at hCount
  simpa only [beq_eq_decide] using hCount

/-- The check accepts exactly the well-wired assemblies. In an accepted one the dependencies have
no cycle, the list is a topological order of them, and at most one output answers to an export
name. -/
theorem validate_accepts_iff_wellWired (a : Assembly) (hBuilt : ∀ t ∈ a.topologies, t.Built) :
    (a.validate = .ok () ↔ a.WellWired) ∧
      (a.validate = .ok () →
        a.TopologicallyOrdered ∧ (∀ name, ¬ Relation.TransGen a.DependsOn name name) ∧
          ∀ name, (a.outputs.filter fun output => output.2.exportName = some name).length ≤ 1) := by
  have hIff : a.validate = .ok () ↔ a.WellWired := by
    rw [validate_eq_ok_iff]
    exact ⟨fun h => h.1, fun h => ⟨h, fun t hMem =>
      ⟨(hBuilt t hMem).nodup_resources, (hBuilt t hMem).nodup_outputs⟩⟩⟩
  refine ⟨hIff, fun hValid => ?_⟩
  have hWired := hIff.mp hValid
  exact ⟨hWired.topologicallyOrdered, hWired.acyclic, hWired.length_candidates_le_one⟩

/-- The reference to a zone of the first topology of `twoRegions`. -/
def foreignZone : Reference := ⟨"Base", ⟨"eu-west-1"⟩, .lit "Zone", Attribute.self, false⟩

/-- A topology with a zone, and one in another region that imports the zone and tells its name. -/
def twoRegions : Assembly :=
  ⟨[⟨"Base", ⟨"eu-west-1"⟩, false, [], [{ id := .lit "Zone", spec := .hostedZone ⟨"a.org"⟩ }], []⟩,
    ⟨"Cert", .cdnHome, true, ["Base"], [],
      [.exported "Zone" (.ref { foreignZone with crossRegion := true })]⟩]⟩

theorem built_twoRegions : ∀ t ∈ twoRegions.topologies, t.Built := by
  intro t hMem
  simp only [twoRegions, List.mem_cons, List.not_mem_nil, or_false] at hMem
  rcases hMem with rfl | rfl
  · exact (Built.new "Base" ⟨"eu-west-1"⟩).add rfl
  · have hImported : ((new "Cert" .cdnHome).allowCrossRegion.importRef foreignZone).2.Built :=
      (Built.new "Cert" .cdnHome).allowCrossRegion.importRef foreignZone
    exact hImported.addOutput (addOutput_eq_ok_iff.mpr ⟨by decide, rfl⟩)

theorem validate_accepts_twoRegions :
    (∀ t ∈ twoRegions.topologies, t.Built) ∧ twoRegions.validate = .ok () ∧
      twoRegions.WellWired := by
  have hValid : twoRegions.validate = .ok () := rfl
  exact ⟨built_twoRegions, hValid,
    (validate_accepts_iff_wellWired twoRegions built_twoRegions).1.mp hValid⟩

end Assembly

end Blueprint
