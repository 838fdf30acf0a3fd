import Blueprint.Proofs.Assembly.Wiring
import Blueprint.Tier

/-! How a tier is declared: imports first, then resources and outputs in order. Nothing of this
fails when identifiers are different, and the references of the finished topology are those of its
own resources and those that it imported. -/

namespace Blueprint

/-- All references in a value have a property. -/
def Value.Within (P : Reference → Prop) (v : Value) : Prop := ∀ r ∈ v.references, P r

namespace Value

variable {P : Reference → Prop}

@[simp] theorem within_literal (text : String) : (literal text).Within P := by
  simp [Within, references]

@[simp] theorem within_ref {r : Reference} : (ref r).Within P ↔ P r := by
  simp [Within, references]

@[simp] theorem within_join {separator : String} {parts : List Value} :
    (join separator parts).Within P ↔ ∀ part ∈ parts, part.Within P := by
  rw [Within, references]
  induction parts with
  | nil => simp [referencesOf]
  | cons first rest ih => simp [referencesOf, or_imp, forall_and, ih, Within]

@[simp] theorem within_joinList {separator : String} {list : Value} :
    (joinList separator list).Within P ↔ list.Within P := by
  simp [Within, references]

@[simp] theorem within_concat {parts : List Value} :
    (concat parts).Within P ↔ ∀ part ∈ parts, part.Within P := within_join

end Value

namespace Topology

/-- The references that a topology may hold: those of its own resources, and those that it
imported, as it has to use them. -/
def Draws (t : Topology) (imports : List Reference) (ids : List ResourceId) (r : Reference) :
    Prop :=
  (∃ id ∈ ids, ∃ attr, r = t.reference id attr) ∨ ∃ i ∈ imports, r = t.localized i

variable {t : Topology} {imports : List Reference} {ids : List ResourceId}

theorem draws_reference {id : ResourceId} (attr : String) (h : id ∈ ids) :
    t.Draws imports ids (t.reference id attr) := .inl ⟨id, h, attr, rfl⟩

theorem draws_localized {i : Reference} (h : i ∈ imports) :
    t.Draws imports ids (t.localized i) := .inr ⟨i, h, rfl⟩

@[simp] theorem within_own {id : ResourceId} {attr : String} (h : id ∈ ids) :
    (t.own id attr).Within (t.Draws imports ids) :=
  Value.within_ref.mpr (draws_reference attr h)

@[simp] theorem references_imported (t : Topology) (i : Reference) :
    (t.imported i).references = [t.localized i] := by rw [imported, Value.references]

@[simp] theorem within_imported {i : Reference} (h : i ∈ imports) :
    (t.imported i).Within (t.Draws imports ids) :=
  Value.within_ref.mpr (draws_localized h)

/-- Nothing is marked that does not come from another region. -/
theorem Draws.unmarked {r : Reference} (h : t.Draws imports ids r)
    (hNear : ∀ i ∈ imports, (t.localized i).crossRegion = false) : r.crossRegion = false := by
  rcases h with ⟨id, -, attr, rfl⟩ | ⟨i, hImport, rfl⟩
  · rfl
  · exact hNear i hImport

end Topology

/-- A declaration holds only certain references, and its maps have no key with a meaning of its
own. -/
structure Resource.Sound (P : Reference → Prop) (resource : Resource) : Prop where
  values : ∀ v ∈ resource.spec.values, v.Within P
  mapKeys : ∀ key ∈ resource.spec.mapKeys, key ∉ Property.reservedKeys

namespace Topology

theorem not_isPrefix_of_head? {text : String} (h : text.toList.head? ≠ some 'E') :
    ¬ "Exports".toList <+: text.toList := by
  rintro ⟨rest, hText⟩
  rw [← hText] at h
  exact h rfl

/-- A topology as a tier declares it, with the references that it takes from other ones. None of
its names is taken by rendering. -/
structure Declares (t : Topology) (imports : List Reference) : Prop where
  resourceIds : (t.resources.map Resource.id).Nodup
  outputIds : (t.outputs.map Output.id).Nodup
  resourceNames : ∀ id ∈ t.resources.map Resource.id, ¬ "Exports".toList <+: id.text.toList
  outputNames : ∀ name ∈ t.outputs.map Output.id, ¬ "Exports".toList <+: name.toList
  resources : ∀ resource ∈ t.resources,
    resource.Sound (t.Draws imports (t.resources.map Resource.id))
  outputs : ∀ output ∈ t.outputs,
    output.value.Within (t.Draws imports (t.resources.map Resource.id))
  dependencies : ∀ name, name ∈ t.dependencies ↔ ∃ i ∈ imports, i.topology = name ∧ name ≠ t.name

/-- The topology with other contents. -/
def filled (t : Topology) (resources : List Resource) (outputs : List Output) : Topology :=
  { t with resources, outputs }

/-- A topology declares what it should if its identifiers and names, once they are known, do not
get into the way of one another or of rendering. -/
theorem declares_filled {t : Topology} {imports : List Reference} {resources : List Resource}
    {outputs : List Output} (ids : List ResourceId) (names : List String)
    (hIds : resources.map Resource.id = ids) (hNames : outputs.map Output.id = names)
    (hApart : ids.Nodup ∧ names.Nodup)
    (hFree : (∀ id ∈ ids, ¬ "Exports".toList <+: id.text.toList) ∧
      ∀ name ∈ names, ¬ "Exports".toList <+: name.toList)
    (hResources : ∀ resource ∈ resources, resource.Sound (t.Draws imports ids))
    (hOutputs : ∀ output ∈ outputs, output.value.Within (t.Draws imports ids))
    (hDependencies : ∀ name, name ∈ t.dependencies ↔
      ∃ i ∈ imports, i.topology = name ∧ name ≠ t.name) :
    (t.filled resources outputs).Declares imports := by
  subst hIds hNames
  exact ⟨hApart.1, hApart.2, hFree.1, hFree.2, hResources, hOutputs, hDependencies⟩

theorem Declares.draws {t : Topology} {imports : List Reference} (h : t.Declares imports)
    {r : Reference} (hMem : r ∈ t.embedded) :
    t.Draws imports (t.resources.map Resource.id) r := by
  rcases List.mem_append.mp hMem with hResource | hOutput
  · obtain ⟨resource, hDeclared, hValues⟩ := List.mem_flatMap.mp hResource
    obtain ⟨v, hValue, hReference⟩ := List.mem_flatMap.mp hValues
    exact (h.resources resource hDeclared).values v hValue r hReference
  · obtain ⟨output, hTold, hReference⟩ := List.mem_flatMap.mp hOutput
    exact h.outputs output hTold r hReference

/-! ### Declaring one after the other -/

theorem declare_eq_ok {t : Topology} {resources : List Resource}
    (h : ((t.resources ++ resources).map Resource.id).Nodup) :
    t.declare resources = .ok { t with resources := t.resources ++ resources } := by
  induction resources generalizing t with
  | nil => simp [declare, pure, Except.pure]
  | cons first rest ih =>
      have hFree : first.id ∉ t.resources.map Resource.id := by
        rw [List.map_append, List.map_cons] at h
        exact fun hMem => (List.nodup_append'.mp h).2.2 hMem (List.mem_cons_self ..)
      have hAdd : t.add first = .ok { t with resources := t.resources ++ [first] } :=
        add_eq_ok_iff.mpr ⟨hFree, rfl⟩
      rw [declare, List.foldlM_cons, hAdd]
      refine (ih ?_).trans ?_
      · simpa using h
      · simp

theorem tell_eq_ok {t : Topology} {outputs : List Output}
    (h : ((t.outputs ++ outputs).map Output.id).Nodup) :
    t.tell outputs = .ok { t with outputs := t.outputs ++ outputs } := by
  induction outputs generalizing t with
  | nil => simp [tell, pure, Except.pure]
  | cons first rest ih =>
      have hFree : first.id ∉ t.outputs.map Output.id := by
        rw [List.map_append, List.map_cons] at h
        exact fun hMem => (List.nodup_append'.mp h).2.2 hMem (List.mem_cons_self ..)
      have hAdd : t.addOutput first = .ok { t with outputs := t.outputs ++ [first] } :=
        addOutput_eq_ok_iff.mpr ⟨hFree, rfl⟩
      rw [tell, List.foldlM_cons, hAdd]
      refine (ih ?_).trans ?_
      · simpa using h
      · simp

theorem declare_of_bare {t : Topology} {resources : List Resource} (hResources : t.resources = [])
    (hOutputs : t.outputs = []) (h : (resources.map Resource.id).Nodup) :
    t.declare resources = .ok (t.filled resources []) := by
  rw [declare_eq_ok (by rwa [hResources, List.nil_append]), hResources, List.nil_append, filled,
    ← hOutputs]

theorem tell_filled (t : Topology) (resources : List Resource) {outputs : List Output}
    (h : (outputs.map Output.id).Nodup) :
    (t.filled resources []).tell outputs = .ok (t.filled resources outputs) :=
  tell_eq_ok h

/-- Imports change nothing but the dependencies. -/
theorem dependOnAll_eq (t : Topology) (references : List Reference) :
    t.dependOnAll references =
      { t with dependencies := (t.dependOnAll references).dependencies } := by
  induction references generalizing t with
  | nil => rfl
  | cons first rest ih =>
      have hFirst : t.dependOn first =
          { t with dependencies := (t.dependOn first).dependencies } := by
        unfold dependOn
        split <;> rfl
      rw [dependOnAll, List.foldl_cons, ← dependOnAll, ih, hFirst]

@[simp] theorem dependOnAll_name (t : Topology) (references : List Reference) :
    (t.dependOnAll references).name = t.name := by rw [dependOnAll_eq]

@[simp] theorem dependOnAll_region (t : Topology) (references : List Reference) :
    (t.dependOnAll references).region = t.region := by rw [dependOnAll_eq]

@[simp] theorem dependOnAll_crossRegion (t : Topology) (references : List Reference) :
    (t.dependOnAll references).crossRegion = t.crossRegion := by rw [dependOnAll_eq]

@[simp] theorem dependOnAll_resources (t : Topology) (references : List Reference) :
    (t.dependOnAll references).resources = t.resources := by rw [dependOnAll_eq]

@[simp] theorem dependOnAll_outputs (t : Topology) (references : List Reference) :
    (t.dependOnAll references).outputs = t.outputs := by rw [dependOnAll_eq]

theorem mem_dependencies_dependOnAll {t : Topology} {references : List Reference} {name : String} :
    name ∈ (t.dependOnAll references).dependencies ↔
      name ∈ t.dependencies ∨ ∃ r ∈ references, r.topology = name ∧ name ≠ t.name := by
  induction references generalizing t with
  | nil => simp [dependOnAll]
  | cons first rest ih =>
      have hFirst : name ∈ (t.dependOn first).dependencies ↔
          name ∈ t.dependencies ∨ first.topology = name ∧ name ≠ t.name := by
        unfold dependOn
        split
        next hKnown =>
          constructor
          · exact .inl
          · rintro (hMem | ⟨rfl, hOther⟩)
            · exact hMem
            · exact hKnown.resolve_left hOther
        next hNew =>
          rw [not_or] at hNew
          simp only [List.mem_append, List.mem_singleton]
          constructor
          · rintro (hMem | rfl)
            · exact .inl hMem
            · exact .inr ⟨rfl, hNew.1⟩
          · rintro (hMem | ⟨rfl, -⟩)
            · exact .inl hMem
            · exact .inr rfl
      rw [dependOnAll, List.foldl_cons, ← dependOnAll, ih, dependOn_name, hFirst, or_assoc]
      simp only [List.mem_cons, exists_eq_or_imp]

/-- The attributes that tiers hand on. -/
def offeredAttributes : List String := [Attribute.self, Attribute.groupId, Attribute.repositoryUri]

/-- A reference that a topology hands on: one of its own, to an attribute of those above. -/
structure Offers (t : Topology) (r : Reference) : Prop where
  topology : r.topology = t.name
  region : r.region = t.region
  resource : r.resource ∈ t.resources.map Resource.id
  attr : r.attr ∈ offeredAttributes

theorem offers_reference {t : Topology} {resources : List Resource} {outputs : List Output}
    {id : ResourceId} {attr : String} (hId : id ∈ resources.map Resource.id)
    (hAttr : attr ∈ offeredAttributes) :
    (t.filled resources outputs).Offers (t.reference id attr) := ⟨rfl, rfl, hId, hAttr⟩

/-- What another topology offers is marked exactly if it comes from another region. -/
theorem Offers.localized {p t : Topology} {i : Reference} (h : p.Offers i)
    (hName : p.name ≠ t.name) :
    t.localized i = { i with crossRegion := p.region ≠ t.region } := by
  rw [Topology.localized, if_neg (h.topology ▸ hName), h.region]

theorem Offers.unmarked {p t : Topology} {i : Reference} (h : p.Offers i)
    (hName : p.name ≠ t.name) (hRegion : p.region = t.region) :
    (t.localized i).crossRegion = false := by
  rw [h.localized hName]
  exact decide_eq_false (not_not.mpr hRegion)

theorem Offers.filter_localized {p t : Topology} {i : Reference} (h : p.Offers i)
    (hName : p.name ≠ t.name) :
    [t.localized i].filter Reference.crossRegion =
      if p.region = t.region then [] else [{ i with crossRegion := true }] := by
  rw [h.localized hName]
  split
  next hSame => simp [hSame]
  next hOther => simp [hOther]

theorem Declares.marked_eq_nil {t : Topology} {imports : List Reference} (h : t.Declares imports)
    (hNear : ∀ i ∈ imports, (t.localized i).crossRegion = false) : t.marked = [] := by
  refine List.filter_eq_nil_iff.mpr fun r hMem => ?_
  rw [(h.draws (mem_references_iff.mp hMem)).unmarked hNear]
  exact Bool.false_ne_true

/-- A foreign reference is one that was imported, as it has to be used. -/
theorem Declares.eq_localized {t : Topology} {imports : List Reference} (h : t.Declares imports)
    {r : Reference} (hEmbedded : r ∈ t.embedded) (hForeign : r.topology ≠ t.name) :
    ∃ i ∈ imports, i.topology ≠ t.name ∧ r = { i with crossRegion := i.region ≠ t.region } := by
  rcases h.draws hEmbedded with ⟨id, -, attr, rfl⟩ | ⟨i, hImport, rfl⟩
  · exact absurd rfl hForeign
  · by_cases hName : i.topology = t.name
    · rw [localized, if_pos hName] at hForeign
      exact absurd hName hForeign
    · exact ⟨i, hImport, hName, if_neg hName⟩

/-- Nothing is imported in vain: the topology uses each of the references that it imports. -/
def UsesAll (t : Topology) (imports : List Reference) : Prop :=
  ∀ i ∈ imports, t.localized i ∈ t.embedded

/-- What a topology takes from others is what it imports, neither more nor less. -/
theorem Declares.mem_foreignReferences_iff {t : Topology} {imports : List Reference}
    (h : t.Declares imports) (hAll : t.UsesAll imports) {r : Reference} :
    r ∈ t.foreignReferences ↔ ∃ i ∈ imports, i.topology ≠ t.name ∧ r = t.localized i := by
  rw [Topology.mem_foreignReferences_iff]
  constructor
  · rintro ⟨hEmbedded, hForeign⟩
    obtain ⟨i, hImport, hName, rfl⟩ := h.eq_localized hEmbedded hForeign
    exact ⟨i, hImport, hName, (if_neg hName).symm⟩
  · rintro ⟨i, hImport, hName, rfl⟩
    refine ⟨hAll i hImport, ?_⟩
    rwa [localized, if_neg hName]

/-- A topology fits behind those that offer what it imports. -/
theorem Declares.fits {t : Topology} {imports : List Reference} (h : t.Declares imports)
    {before : List Topology} (hOffered : ∀ i ∈ imports, ∃ p ∈ before, p.Offers i ∧
      p.name ≠ t.name ∧ (p.region = t.region ∨ t.crossRegion = true)) : t.Fits before where
  dependencies := by
    intro name hMem
    obtain ⟨i, hImport, hName, -⟩ := (h.dependencies name).mp hMem
    obtain ⟨p, hBefore, hOffers, -⟩ := hOffered i hImport
    exact List.mem_map.mpr ⟨p, hBefore, hOffers.topology.symm.trans hName⟩
  own := by
    intro r hEmbedded hOwn
    rcases h.draws hEmbedded with ⟨id, hId, attr, rfl⟩ | ⟨i, hImport, rfl⟩
    · exact hId
    · obtain ⟨p, -, hOffers, hName, -⟩ := hOffered i hImport
      rw [← hOffers.topology] at hName
      rw [localized, if_neg hName] at hOwn
      exact absurd hOwn hName
  imported := by
    intro r hEmbedded hForeign
    obtain ⟨i, hImport, hName, rfl⟩ := h.eq_localized hEmbedded hForeign
    exact (h.dependencies _).mpr ⟨i, hImport, rfl, hName⟩
  declared := by
    intro r hEmbedded hForeign
    obtain ⟨i, hImport, -, rfl⟩ := h.eq_localized hEmbedded hForeign
    obtain ⟨p, hBefore, hOffers, -⟩ := hOffered i hImport
    exact ⟨p, hBefore, hOffers.topology.symm, hOffers.resource⟩
  marked := by
    intro r hEmbedded hForeign hRegion
    obtain ⟨i, hImport, -, rfl⟩ := h.eq_localized hEmbedded hForeign
    obtain ⟨p, -, hOffers, -, hAllowed⟩ := hOffered i hImport
    refine ⟨decide_eq_true hRegion, hAllowed.resolve_left fun hSame => ?_⟩
    exact hRegion (hOffers.region.trans hSame)

end Topology

end Blueprint
