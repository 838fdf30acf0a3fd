import Blueprint.Proofs.Topology.Calls

/-! What importing is good for. An import records where a reference comes from and marks it if it
crosses regions, and both stay true of the topology from then on. So a topology that uses nothing
but its own resources and what imports gave back to it can fail its check only for want of leave to
cross regions. -/

namespace Blueprint.Topology

/-- What an import sees to: the other topology is recorded, and the mark tells whether the reference
crosses regions. -/
structure Imported (t : Topology) (r : Reference) : Prop where
  recorded : r.topology ∈ t.dependencies
  marked : r.crossRegion = true ↔ r.region ≠ t.region

theorem Imported.of_grows {t t' : Topology} {r : Reference} (h : t.Imported r)
    (hGrows : Grows t t') : t'.Imported r where
  recorded := hGrows.dependencies_isPrefix.subset h.recorded
  marked := by
    rw [hGrows.name_region_eq.2]
    exact h.marked

theorem localized_topology (t : Topology) (reference : Reference) :
    (t.localized reference).topology = reference.topology := by
  unfold localized
  split <;> rfl

theorem imported_localized {t : Topology} {reference : Reference}
    (hForeign : (t.localized reference).topology ≠ t.name) :
    (t.dependOn reference).Imported (t.localized reference) := by
  rw [localized_topology] at hForeign
  rw [localized, if_neg hForeign]
  constructor
  · by_cases hKnown : reference.topology ∈ t.dependencies
    · rwa [dependOn_of_known (.inr hKnown)]
    · rw [dependOn_of_new hForeign hKnown]
      exact List.mem_append_right _ (List.mem_singleton_self _)
  · rw [dependOn_region]
    exact decide_eq_true_iff

/-- An imported reference may stand in the topology unless it crosses regions without leave. -/
theorem Imported.admits_iff {t : Topology} {r : Reference} (h : t.Imported r)
    (hForeign : r.topology ≠ t.name) :
    t.Admits r ↔ t.crossRegion = true ∨ r.region = t.region := by
  constructor
  · intro hAdmits
    by_cases hRegion : r.region = t.region
    · exact .inr hRegion
    · exact .inl (hAdmits.marked hForeign hRegion).2
  · intro hAllowed
    refine ⟨fun hOwn => absurd hOwn hForeign, fun _ => h.recorded, fun _ hRegion => ?_⟩
    exact ⟨h.marked.mpr hRegion, hAllowed.resolve_right hRegion⟩

theorem admits_of_own {t : Topology} {r : Reference} (hOwn : r.topology = t.name)
    (hDeclared : r.resource ∈ t.resources.map Resource.id) : t.Admits r where
  own _ := hDeclared
  imported hForeign := absurd hOwn hForeign
  marked hForeign := absurd hOwn hForeign

/-! ### Runs -/

namespace Call

/-- The references that an answer gives back from an import. -/
def handed : Except ModelError Reply → List Reference
  | .ok (.imported value) => value.references
  | .ok (.granted statement) => statement.resources.flatMap Value.references
  | _ => []

theorem handed_map_eq_nil {α : Type} (result : Except ModelError α) {reply : α → Reply}
    (hReply : ∀ a, handed (.ok (reply a)) = []) : handed (result.map reply) = [] := by
  cases result with
  | ok a => exact hReply a
  | error e => rfl

/-- What a call gives back from an import is imported into the topology that it leaves. -/
theorem imported_run {call : Call} {t : Topology} {r : Reference} (hMem : r ∈ handed (call.run t).1)
    (hForeign : r.topology ≠ t.name) : (call.run t).2.Imported r := by
  have hNothing : handed (call.run t).1 = [] → (call.run t).2.Imported r := by
    intro hNil
    rw [hNil] at hMem
    cases hMem
  cases call with
  | allowCrossRegion => exact hNothing rfl
  | add resource => exact hNothing (handed_map_eq_nil (t.declareResource resource).1 fun _ => rfl)
  | addOutput output => exact hNothing (handed_map_eq_nil (t.declareOutput output).1 fun _ => rfl)
  | importRef reference =>
      obtain rfl := List.mem_singleton.mp hMem
      exact imported_localized hForeign
  | retrieval credentials =>
      obtain rfl := List.mem_singleton.mp hMem
      exact imported_localized hForeign
  | finalize runtime =>
      exact hNothing (handed_map_eq_nil (runtime.declareIn t).1 fun _ => rfl)

end Call

/-- The references that imports give back in the course of some calls. -/
def imports (t : Topology) : List Call → List Reference
  | [] => []
  | call :: calls => Call.handed (call.run t).1 ++ imports (call.run t).2 calls

/-- Whatever comes after an import, what it gave back stays imported. -/
theorem imported_after {t : Topology} {calls : List Call} {r : Reference}
    (hMem : r ∈ t.imports calls) (hForeign : r.topology ≠ t.name) : (t.after calls).Imported r := by
  induction calls generalizing t with
  | nil => cases hMem
  | cons call calls ih =>
      show ((call.run t).2.after calls).Imported r
      rcases List.mem_append.mp hMem with hNow | hLater
      · exact (Call.imported_run hNow hForeign).of_grows (grows_after _ calls)
      · have hName := (call.grows_run t).name_region_eq.1
        exact ih hLater (by rwa [hName])

/-- The calls leave a topology that uses nothing but what imports gave back and resources that are
declared in the end, at any depth of its declarations and outputs. -/
def UsesImports (t : Topology) (calls : List Call) : Prop :=
  ∀ r ∈ (t.after calls).embedded,
    r.topology ≠ t.name ∧ r ∈ t.imports calls ∨
      r.topology = t.name ∧ r.resource ∈ (t.after calls).resources.map Resource.id

instance (t : Topology) (calls : List Call) : Decidable (t.UsesImports calls) :=
  inferInstanceAs (Decidable (∀ r ∈ _, _))

/-- Going through import is all that a topology has to do: it then passes its check if it has leave
to cross regions, or if nothing it imported and uses lies in another one. -/
theorem validate_after_imports {name : String} {region : Region} {calls : List Call}
    (h : (new name region).UsesImports calls) :
    ((new name region).after calls).validate = .ok () ↔
      ((new name region).after calls).crossRegion = true ∨
        ∀ r ∈ ((new name region).after calls).embedded, r.topology ≠ name → r.region = region := by
  have hGrows := grows_after (new name region) calls
  have hImported : ∀ r ∈ (new name region).imports calls, r.topology ≠ name →
      ((new name region).after calls).Imported r := fun r => imported_after
  unfold UsesImports at h
  generalize (new name region).after calls = t at h hGrows hImported ⊢
  obtain ⟨hName, hRegion⟩ : t.name = name ∧ t.region = region := hGrows.name_region_eq
  have hAdmits : ∀ r ∈ t.embedded,
      t.Admits r ↔ (r.topology ≠ name → t.crossRegion = true ∨ r.region = region) := by
    intro r hMem
    rcases h r hMem with ⟨hForeign, hGiven⟩ | ⟨hOwn, hDeclared⟩
    · rw [(hImported r hGiven hForeign).admits_iff (by rwa [hName]), hRegion]
      exact (imp_iff_right hForeign).symm
    · exact iff_of_true (admits_of_own (hOwn.trans hName.symm) hDeclared)
        fun hForeign => absurd hOwn hForeign
  have hBuilt : t.Built := built_iff_grows.mpr ⟨name, region, hGrows⟩
  rw [hBuilt.validate_eq_ok_iff, forall₂_congr hAdmits]
  by_cases hAllowed : t.crossRegion = true <;> simp [hAllowed]

/-- Calls that import a zone from another region and tell it along with a repository, which is
declared only afterwards. -/
def callsAcross : List Call :=
  let zone : Reference := ⟨"Base", .cdnHome, .lit "Domain", Attribute.nameServers, false⟩
  let repository : Reference := ⟨"Web", ⟨"eu-west-1"⟩, .lit "Images", Attribute.self, false⟩
  let value : Value :=
    .concat [.joinList "\n" (.ref { zone with crossRegion := true }), .ref repository]
  [.importRef zone, .addOutput (.exported "Servers" value),
    .add { id := .lit "Images", spec := .repository ⟨true⟩ }]

/-- The same calls fail the check or pass it, depending on the leave to cross regions. -/
theorem validate_after_imports_across :
    (new "Web" ⟨"eu-west-1"⟩).UsesImports callsAcross ∧
      ((new "Web" ⟨"eu-west-1"⟩).after callsAcross).validate ≠ .ok () ∧
      (new "Web" ⟨"eu-west-1"⟩).UsesImports (.allowCrossRegion :: callsAcross) ∧
      ((new "Web" ⟨"eu-west-1"⟩).after (.allowCrossRegion :: callsAcross)).validate = .ok () := by
  have hForbidden : (new "Web" ⟨"eu-west-1"⟩).UsesImports callsAcross := by decide
  have hAllowed : (new "Web" ⟨"eu-west-1"⟩).UsesImports (.allowCrossRegion :: callsAcross) := by
    decide
  refine ⟨hForbidden, fun hValid => ?_, hAllowed, (validate_after_imports hAllowed).mpr (.inl rfl)⟩
  have hCrossing := (validate_after_imports hForbidden).mp hValid
  revert hCrossing
  decide

end Blueprint.Topology
