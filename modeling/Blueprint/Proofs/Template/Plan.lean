import Blueprint.Proofs.Dict
import Blueprint.Proofs.Topology.References
import Blueprint.Template.ExportPlan
import Mathlib.Data.List.Induction

/-! What the export plan of an assembly hands out: what some topology uses of another one, and
nothing else. Two uses of one attribute may differ in what they say about regions, so a look-up
finds some use of the attribute and not always the given one. -/

namespace Blueprint

/-- The uses that topologies make of one another: each foreign reference with the region in which
it stands, in the order of the topologies. -/
def Assembly.uses (a : Assembly) : List (Region × Reference) :=
  a.topologies.flatMap fun t => t.foreignReferences.map fun r => (t.region, r)

theorem Assembly.mem_uses_iff {a : Assembly} {region : Region} {r : Reference} :
    (region, r) ∈ a.uses ↔
      ∃ t ∈ a.topologies, t.region = region ∧ r ∈ t.embedded ∧ r.topology ≠ t.name := by
  simp [Assembly.uses, Topology.mem_foreignReferences_iff, and_comm, and_left_comm]

namespace ExportPlan

/-- The attributes that a topology exports, under their export keys. -/
def exports (plan : ExportPlan) (producer : String) : Dict Reference :=
  (plan.outputs.get? producer).getD .empty

/-- The attributes that a topology writes to parameters, under regions and paths. -/
def written (plan : ExportPlan) (producer : String) : Dict (Dict Reference) :=
  (plan.writers.get? producer).getD .empty

/-- All attributes that a topology hands out. -/
def handedOut (plan : ExportPlan) (producer : String) : List Reference :=
  (plan.written producer).values.flatMap Dict.values ++ (plan.exports producer).values

theorem exports_add (plan : ExportPlan) (region : Region) (r : Reference) (producer : String) :
    (plan.add region r).exports producer =
      if r.crossRegion = false ∧ producer = r.topology then
        (plan.exports producer).insert r.exportKey r
      else plan.exports producer := by
  unfold add exports
  cases r.crossRegion with
  | true => rfl
  | false =>
      simp only [Bool.false_eq_true, ↓reduceIte, Dict.get?_alter, true_and]
      by_cases hProducer : producer = r.topology
      · rw [if_pos hProducer, if_pos hProducer, hProducer, Option.getD_some]
      · rw [if_neg hProducer, if_neg hProducer]

theorem written_add (plan : ExportPlan) (region : Region) (r : Reference) (producer : String) :
    (plan.add region r).written producer =
      if r.crossRegion = true ∧ producer = r.topology then
        (plan.written producer).alter region.name fun parameters =>
          (parameters.getD .empty).insert (Intrinsic.parameterPath r) r
      else plan.written producer := by
  unfold add written
  cases r.crossRegion with
  | false => rfl
  | true =>
      simp only [↓reduceIte, Dict.get?_alter, true_and]
      by_cases hProducer : producer = r.topology
      · rw [if_pos hProducer, if_pos hProducer, hProducer, Option.getD_some]
      · rw [if_neg hProducer, if_neg hProducer]

/-! ### One more use -/

section

variable {plan : ExportPlan} {region : Region} {r r' : Reference} {producer name path key : String}
  {parameters : Dict Reference}

/-- An export after one more use is that of the use, or it was there before. -/
theorem get?_exports_add (hFind : ((plan.add region r).exports producer).get? key = some r') :
    (r' = r ∧ r.crossRegion = false ∧ r.topology = producer ∧ r.exportKey = key) ∨
      (plan.exports producer).get? key = some r' := by
  rw [exports_add] at hFind
  split at hFind
  next hNew =>
    rw [Dict.get?_insert] at hFind
    split at hFind
    next hKey => exact .inl ⟨(Option.some.inj hFind).symm, hNew.1, hNew.2.symm, hKey.symm⟩
    next => exact .inr hFind
  next => exact .inr hFind

/-- A key that was exported stays exported, perhaps with the attribute of the new use. -/
theorem get?_exports_add_of_get? (hFind : (plan.exports producer).get? key = some r') :
    ∃ kept, ((plan.add region r).exports producer).get? key = some kept := by
  rw [exports_add]
  split
  · rw [Dict.get?_insert]
    split
    · exact ⟨r, rfl⟩
    · exact ⟨r', hFind⟩
  · exact ⟨r', hFind⟩

/-- A region that is written to after one more use is that of the use, or it was before. -/
theorem get?_written_add
    (hFind : ((plan.add region r).written producer).get? name = some parameters) :
    (r.crossRegion = true ∧ r.topology = producer ∧ region.name = name ∧
      parameters = (((plan.written producer).get? name).getD .empty).insert
        (Intrinsic.parameterPath r) r) ∨
      (plan.written producer).get? name = some parameters := by
  rw [written_add] at hFind
  split at hFind
  next hNew =>
    rw [Dict.get?_alter] at hFind
    split at hFind
    next hRegion =>
      subst hRegion
      exact .inl ⟨hNew.1, hNew.2.symm, rfl, (Option.some.inj hFind).symm⟩
    next => exact .inr hFind
  next => exact .inr hFind

/-- So is an attribute that is written there. -/
theorem get?_parameters_add
    (hFind : ((plan.add region r).written producer).get? name = some parameters)
    (hPath : parameters.get? path = some r') :
    (r' = r ∧ r.crossRegion = true ∧ r.topology = producer ∧ region.name = name ∧
      Intrinsic.parameterPath r = path) ∨
      ∃ before, (plan.written producer).get? name = some before ∧ before.get? path = some r' := by
  rcases get?_written_add hFind with ⟨hMarked, hTopology, hRegion, rfl⟩ | hBefore
  · rw [Dict.get?_insert] at hPath
    split at hPath
    next hSame =>
      exact .inl ⟨(Option.some.inj hPath).symm, hMarked, hTopology, hRegion, hSame.symm⟩
    next =>
      cases hBefore : (plan.written producer).get? name with
      | none =>
          rw [hBefore] at hPath
          cases hPath
      | some before =>
          rw [hBefore, Option.getD_some] at hPath
          exact .inr ⟨before, rfl, hPath⟩
  · exact .inr ⟨parameters, hBefore, hPath⟩

/-- A path that was written to stays one, perhaps with the attribute of the new use. -/
theorem get?_parameters_add_of_get?
    (hFind : (plan.written producer).get? name = some parameters)
    (hPath : parameters.get? path = some r') :
    ∃ after kept, ((plan.add region r).written producer).get? name = some after ∧
      after.get? path = some kept := by
  rw [written_add]
  split
  · rw [Dict.get?_alter]
    split
    next hSame =>
      refine ⟨_, if path = Intrinsic.parameterPath r then r else r', rfl, ?_⟩
      rw [← hSame, hFind, Option.getD_some, Dict.get?_insert]
      split
      · rfl
      · exact hPath
    next => exact ⟨parameters, r', hFind, hPath⟩
  · exact ⟨parameters, r', hFind, hPath⟩

end

/-- The plan hands out what is used, and nothing that is not. -/
structure HandsOut (plan : ExportPlan) (uses : List (Region × Reference)) : Prop where
  /-- Every exported attribute is used unmarked, and stands under its topology and key. -/
  exports_used : ∀ {producer key r}, (plan.exports producer).get? key = some r →
    r.topology = producer ∧ r.exportKey = key ∧ r.crossRegion = false ∧ ∃ region, (region, r) ∈ uses
  /-- Every unmarked use finds its key exported. -/
  exports_found : ∀ {region r}, (region, r) ∈ uses → r.crossRegion = false →
    ∃ r', (plan.exports r.topology).get? r.exportKey = some r'
  /-- A topology writes to the regions in which it is used marked. -/
  regions_used : ∀ {producer region parameters},
    (plan.written producer).get? region = some parameters →
      ∃ use ∈ uses, use.1.name = region ∧ use.2.topology = producer ∧ use.2.crossRegion = true
  /-- Every written attribute is used marked in the region, and stands under its path. -/
  written_used : ∀ {producer region parameters path r},
    (plan.written producer).get? region = some parameters → parameters.get? path = some r →
      r.topology = producer ∧ Intrinsic.parameterPath r = path ∧ r.crossRegion = true ∧
        ∃ use ∈ uses, use.1.name = region ∧ use.2 = r
  /-- Every marked use finds its path written to its region. -/
  written_found : ∀ {region r}, (region, r) ∈ uses → r.crossRegion = true →
    ∃ parameters r', (plan.written r.topology).get? region.name = some parameters ∧
      parameters.get? (Intrinsic.parameterPath r) = some r'

theorem handsOut_empty : HandsOut empty [] where
  exports_used h := by cases h
  exports_found h := by cases h
  regions_used h := by cases h
  written_used h := by cases h
  written_found h := by cases h

/-- What a topology hands out is its own, and is used. -/
theorem HandsOut.of_mem_handedOut {plan : ExportPlan} {uses : List (Region × Reference)}
    (h : HandsOut plan uses) {producer : String} {r : Reference}
    (hMem : r ∈ plan.handedOut producer) : r.topology = producer ∧ ∃ use ∈ uses, use.2 = r := by
  rcases List.mem_append.mp hMem with hWritten | hExported
  · obtain ⟨parameters, hParameters, hValue⟩ := List.mem_flatMap.mp hWritten
    obtain ⟨⟨region, _⟩, hRegion, rfl⟩ := List.mem_map.mp hParameters
    obtain ⟨⟨path, _⟩, hPath, rfl⟩ := List.mem_map.mp hValue
    obtain ⟨hTopology, -, -, use, hMem, -, hUse⟩ := h.written_used
      (Dict.mem_entries_iff_get?.mp hRegion) (Dict.mem_entries_iff_get?.mp hPath)
    exact ⟨hTopology, use, hMem, hUse⟩
  · obtain ⟨⟨key, _⟩, hKey, rfl⟩ := List.mem_map.mp hExported
    obtain ⟨hTopology, -, -, region, hMem⟩ := h.exports_used (Dict.mem_entries_iff_get?.mp hKey)
    exact ⟨hTopology, _, hMem, rfl⟩

/-- One more use: an entry that it replaces stood for the same key, so nothing else is lost. -/
theorem HandsOut.add {plan : ExportPlan} {uses : List (Region × Reference)} (h : HandsOut plan uses)
    (region : Region) (r : Reference) :
    HandsOut (plan.add region r) (uses ++ [(region, r)]) where
  exports_used := by
    intro producer key r' hFind
    rcases get?_exports_add hFind with ⟨rfl, hUnmarked, hTopology, hKey⟩ | hBefore
    · exact ⟨hTopology, hKey, hUnmarked, region, by simp⟩
    · obtain ⟨hTopology, hKey, hUnmarked, region', hMem⟩ := h.exports_used hBefore
      exact ⟨hTopology, hKey, hUnmarked, region', List.mem_append_left _ hMem⟩
  exports_found := by
    intro region' r' hMem hUnmarked
    rcases List.mem_append.mp hMem with hOld | hNew
    · obtain ⟨found, hFind⟩ := h.exports_found hOld hUnmarked
      exact get?_exports_add_of_get? hFind
    · cases List.mem_singleton.mp hNew
      rw [exports_add, if_pos ⟨hUnmarked, rfl⟩, Dict.get?_insert, if_pos rfl]
      exact ⟨r, rfl⟩
  regions_used := by
    intro producer region' parameters hFind
    rcases get?_written_add hFind with ⟨hMarked, hTopology, hRegion, -⟩ | hBefore
    · exact ⟨(region, r), by simp, hRegion, hTopology, hMarked⟩
    · obtain ⟨use, hMem, hUse⟩ := h.regions_used hBefore
      exact ⟨use, List.mem_append_left _ hMem, hUse⟩
  written_used := by
    intro producer region' parameters path r' hFind hPath
    rcases get?_parameters_add hFind hPath with
      ⟨rfl, hMarked, hTopology, hRegion, hSame⟩ | ⟨before, hBefore, hPath⟩
    · exact ⟨hTopology, hSame, hMarked, (region, r'), by simp, hRegion, rfl⟩
    · obtain ⟨hTopology, hSame, hMarked, use, hMem, hUse⟩ := h.written_used hBefore hPath
      exact ⟨hTopology, hSame, hMarked, use, List.mem_append_left _ hMem, hUse⟩
  written_found := by
    intro region' r' hMem hMarked
    rcases List.mem_append.mp hMem with hOld | hNew
    · obtain ⟨parameters, found, hRegion, hPath⟩ := h.written_found hOld hMarked
      exact get?_parameters_add_of_get? hRegion hPath
    · cases List.mem_singleton.mp hNew
      rw [written_add, if_pos ⟨hMarked, rfl⟩, Dict.get?_alter, if_pos rfl]
      exact ⟨_, r, rfl, by rw [Dict.get?_insert, if_pos rfl]⟩

/-- The plan takes up one use after the other. -/
theorem collect_eq_foldl (a : Assembly) :
    collect a = a.uses.foldl (fun plan use => plan.add use.1 use.2) empty := by
  rw [collect, Assembly.uses, List.foldl_flatMap]
  simp only [List.foldl_map]

/-- The plan of an assembly hands out exactly what its topologies use of one another. -/
theorem handsOut_collect (a : Assembly) : HandsOut (collect a) a.uses := by
  have hFold : ∀ uses : List (Region × Reference),
      HandsOut (uses.foldl (fun plan use => plan.add use.1 use.2) empty) uses := by
    intro uses
    induction uses using List.reverseRecOn with
    | nil => exact handsOut_empty
    | append_singleton uses last ih =>
        rw [List.foldl_append]
        exact ih.add last.1 last.2
  rw [collect_eq_foldl]
  exact hFold a.uses

/-- Attributes under the regions in which they are used and their paths. -/
def gathered (uses : List (Region × Reference)) : Dict (Dict Reference) :=
  uses.foldl (fun regions use => regions.alter use.1.name fun parameters =>
    (parameters.getD .empty).insert (Intrinsic.parameterPath use.2) use.2) .empty

/-- What a topology writes depends on the marked uses of its own attributes only. -/
theorem written_collect (a : Assembly) (producer : String) :
    (collect a).written producer =
      gathered ((a.uses.filter fun use => use.2.crossRegion).filter fun use =>
        use.2.topology = producer) := by
  rw [collect_eq_foldl]
  induction a.uses using List.reverseRecOn with
  | nil => rfl
  | append_singleton uses last ih =>
      rw [List.foldl_append, List.foldl_cons, List.foldl_nil, written_add, ih, List.filter_append,
        List.filter_append]
      by_cases hNew : last.2.crossRegion = true ∧ producer = last.2.topology
      · rw [if_pos hNew]
        simp [gathered, hNew.1, hNew.2]
      · have hLeft : ([last].filter fun use => use.2.crossRegion).filter
            (fun use => use.2.topology = producer) = [] := by
          refine List.filter_eq_nil_iff.mpr fun use hMem hTopology => hNew ?_
          obtain ⟨hLast, hMarked⟩ := List.mem_filter.mp hMem
          obtain rfl := List.mem_singleton.mp hLast
          exact ⟨hMarked, (of_decide_eq_true hTopology).symm⟩
        rw [if_neg hNew, hLeft, List.append_nil]

end ExportPlan

end Blueprint
