import Blueprint.Proofs.Assembly.Rendering

/-! What the check of an assembly finds out about regions. It compares the region that a reference
carries, which is a copy, with that of the topology that uses it, and it asks this topology alone
for its leave. Where the other topology really is, and whether it gives leave, stays open. -/

namespace Blueprint

/-- What it takes to use a resource of one topology in another one across regions. -/
structure Topology.TreatsAsCrossing (p t : Topology) (r : Reference) : Prop where
  marked : r.crossRegion = true
  publishes : p.crossRegion = true
  consumes : t.crossRegion = true

namespace Assembly

open Blueprint.Topology

/-- A topology uses a resource of another one, which is in another region. -/
structure Crosses (a : Assembly) (p t : Topology) (r : Reference) : Prop where
  producer : p ∈ a.topologies
  consumer : t ∈ a.topologies
  foreign : r ∈ t.foreignReferences
  name : p.name = r.topology
  apart : p.region ≠ t.region

/-- All uses across regions are treated as such. -/
def TreatsCrossings (a : Assembly) : Prop :=
  ∀ p t r, a.Crosses p t r → p.TreatsAsCrossing t r

variable {a : Assembly}

/-- What a topology takes from another one is of exactly one topology. -/
theorem WellWired.existsUnique_producer (h : a.WellWired) {t : Topology} (hMem : t ∈ a.topologies)
    {r : Reference} (hForeign : r ∈ t.foreignReferences) :
    ∃! p, p ∈ a.topologies ∧ p.name = r.topology := by
  obtain ⟨hEmbedded, hOther⟩ := mem_foreignReferences_iff.mp hForeign
  obtain ⟨p, hProducer, hName, -⟩ :=
    h.declared_of_use (mem_uses_iff.mpr ⟨t, hMem, rfl, hEmbedded, hOther⟩)
  refine ⟨p, ⟨hProducer, hName⟩, fun q ⟨hMem', hName'⟩ => ?_⟩
  exact h.eq_of_name_eq hMem' hProducer (hName'.trans hName.symm)

/-- The check sees a crossing if the reference tells that it comes from elsewhere. -/
theorem WellWired.marked_of_region_ne (h : a.WellWired) {t : Topology} (hMem : t ∈ a.topologies)
    {r : Reference} (hForeign : r ∈ t.foreignReferences) (hRegion : r.region ≠ t.region) :
    r.crossRegion = true ∧ t.crossRegion = true := by
  obtain ⟨hEmbedded, hOther⟩ := mem_foreignReferences_iff.mp hForeign
  obtain ⟨before, after, hSplit⟩ := List.append_of_mem hMem
  exact (h.fits before t after hSplit).marked r hEmbedded hOther hRegion

section

variable {p t : Topology} {r : Reference} (h : a.WellWired) (hCrosses : a.Crosses p t r)

include h hCrosses

/-- A reference that the other topology has made is told to come from elsewhere. -/
theorem Crosses.marked_of_mints (hMints : p.Mints r) :
    r.crossRegion = true ∧ t.crossRegion = true := by
  refine h.marked_of_region_ne hCrosses.consumer hCrosses.foreign ?_
  rw [hMints.topology_region_eq.2]
  exact hCrosses.apart

theorem Crosses.treatsAsCrossing_iff :
    p.TreatsAsCrossing t r ↔ p.crossRegion = true ∧
      (r.region = t.region → r.crossRegion = true ∧ t.crossRegion = true) := by
  constructor
  · exact fun hTreats => ⟨hTreats.publishes, fun _ => ⟨hTreats.marked, hTreats.consumes⟩⟩
  · rintro ⟨hPublishes, hSame⟩
    have hMarked : r.crossRegion = true ∧ t.crossRegion = true := by
      by_cases hRegion : r.region = t.region
      · exact hSame hRegion
      · exact h.marked_of_region_ne hCrosses.consumer hCrosses.foreign hRegion
    exact ⟨hMarked.1, hPublishes, hMarked.2⟩

end

/-- In an accepted assembly a use across regions is marked, and the topology that uses the resource
has leave for that, as long as the other topology has made the reference itself. Two things may be
missing: the leave of the other topology, and the mark on a reference that claims to come from the
region it is used in. -/
theorem crossings_of_accepted (h : a.validate = .ok ()) :
    (∀ t ∈ a.topologies, ∀ r ∈ t.foreignReferences,
      ∃! p, p ∈ a.topologies ∧ p.name = r.topology) ∧
    ∀ p t r, a.Crosses p t r →
      (p.Mints r → r.crossRegion = true ∧ t.crossRegion = true) ∧
      (p.TreatsAsCrossing t r ↔ p.crossRegion = true ∧
        (r.region = t.region → r.crossRegion = true ∧ t.crossRegion = true)) := by
  have hWired := (validate_eq_ok_iff.mp h).1
  refine ⟨fun t hMem r hForeign => hWired.existsUnique_producer hMem hForeign,
    fun p t r hCrosses => ⟨hCrosses.marked_of_mints hWired, hCrosses.treatsAsCrossing_iff hWired⟩⟩

/-- In `twoRegions` the second topology uses the zone of the first one. -/
theorem crosses_twoRegions : ∃ p t r, twoRegions.Crosses p t r ∧ p.Mints r ∧
    p.crossRegion = false := by
  refine ⟨_, _, { foreignZone with crossRegion := true },
    ⟨List.mem_cons_self, List.mem_cons_of_mem _ List.mem_cons_self, ?_, rfl, by decide⟩, ?_, rfl⟩
  · exact mem_foreignReferences_iff.mpr ⟨by decide, by decide⟩
  · exact (Mints.reference .refl foreignZone.resource Attribute.self).localized
      (.new "Cert" .cdnHome)

/-- The mark is there and so is the leave of the second topology; that of the first one is not. -/
theorem crossings_of_accepted_twoRegions : twoRegions.validate = .ok () ∧
    ∃ p t r, twoRegions.Crosses p t r ∧ r.crossRegion = true ∧ t.crossRegion = true ∧
      ¬ p.TreatsAsCrossing t r := by
  have hValid : twoRegions.validate = .ok () := rfl
  obtain ⟨p, t, r, hCrosses, hMints, hForbids⟩ := crosses_twoRegions
  obtain ⟨hMarked, hIff⟩ := (crossings_of_accepted hValid).2 p t r hCrosses
  refine ⟨hValid, p, t, r, hCrosses, (hMarked hMints).1, (hMarked hMints).2, fun hTreats => ?_⟩
  rw [(hIff.mp hTreats).1] at hForbids
  cases hForbids

/-- A topology that uses a zone by a reference from the time when the topology of the zone was in
its own region. -/
def moved : Assembly :=
  ⟨[⟨"Base", .cdnHome, true, [],
      [{ id := foreignZone.resource, spec := .hostedZone ⟨"a.org"⟩ }], []⟩,
    ⟨"Web", ⟨"eu-west-1"⟩, true, ["Base"], [], [.exported "Zone" (.ref foreignZone)]⟩]⟩

theorem built_moved : ∀ t ∈ moved.topologies, t.Built := by
  intro t hMem
  simp only [moved, List.mem_cons, List.not_mem_nil, or_false] at hMem
  rcases hMem with rfl | rfl
  · exact (Built.new "Base" .cdnHome).allowCrossRegion.add rfl
  · have hImported : ((new "Web" ⟨"eu-west-1"⟩).allowCrossRegion.importRef foreignZone).2.Built :=
      (Built.new "Web" ⟨"eu-west-1"⟩).allowCrossRegion.importRef foreignZone
    exact hImported.addOutput (addOutput_eq_ok_iff.mpr ⟨by decide, rfl⟩)

/-- Either thing can be missing in an accepted assembly while nothing else is: the leave of the
topology that is used, or the mark on an old reference to it. -/
theorem accepted_untreated :
    ((∀ t ∈ twoRegions.topologies, t.Built) ∧ twoRegions.validate = .ok () ∧
      ¬ twoRegions.TreatsCrossings) ∧
    (∀ t ∈ moved.topologies, t.Built) ∧ moved.validate = .ok () ∧
      (∀ t ∈ moved.topologies, t.crossRegion = true) ∧ ¬ moved.TreatsCrossings := by
  refine ⟨⟨built_twoRegions, rfl, fun hTreats => ?_⟩, built_moved, rfl, by decide,
    fun hTreats => ?_⟩
  · obtain ⟨p, t, r, hCrosses, -, hForbids⟩ := crosses_twoRegions
    rw [(hTreats p t r hCrosses).publishes] at hForbids
    cases hForbids
  · have hCrosses : moved.Crosses moved.topologies[0] moved.topologies[1] foreignZone :=
      ⟨List.mem_cons_self, List.mem_cons_of_mem _ List.mem_cons_self,
        mem_foreignReferences_iff.mpr ⟨by decide, by decide⟩, rfl, by decide⟩
    cases (hTreats _ _ _ hCrosses).marked

end Assembly

end Blueprint
