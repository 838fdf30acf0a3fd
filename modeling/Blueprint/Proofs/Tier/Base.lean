import Blueprint.Proofs.Tier.Declaration
import Blueprint.Proofs.Tier.Numbered
import Blueprint.Tier.Base

/-! The base tier takes nothing from others. Its declaration cannot fail for any number of zones
that a document can hold: the subnets are numbered, and no number makes two of them the same. -/

namespace Blueprint.Base

/-- What the identifiers of subnets of one kind begin with. -/
def stem : SubnetType → String
  | .public => "PublicSubnet"
  | .private => "PrivateSubnet"

theorem sanitized_subnetName (subnetType : SubnetType) {zone : Nat} (h : zone ≤ Bounds.nat32) :
    ∃ id, ResourceId.sanitized (subnetName subnetType zone) = .ok id ∧
      id.text = stem subnetType ++ toString zone := by
  have hId : IsResourceId (stem subnetType ++ toString zone) := by
    cases subnetType <;> exact isResourceId_numbered (by decide) (by decide) h
  have hNumber : (toString zone).toList.filter
      (fun c => !(c = '-' || c = '_' || c = ' ')) = (toString zone).toList := by
    refine List.filter_eq_self.mpr fun c hMem => ?_
    have hOther : ∀ other, Text.isAlnum other = false → c ≠ other := fun other hOther hSame =>
      (isAlnum_toString zone).not_mem hOther (hSame ▸ hMem)
    simp [hOther '-' (by decide), hOther '_' (by decide), hOther ' ' (by decide)]
  have hText : String.ofList ((subnetName subnetType zone).toList.filter
      fun c => !(c = '-' || c = '_' || c = ' ')) = stem subnetType ++ toString zone := by
    rw [← String.toList_inj, String.toList_ofList, String.toList_append]
    cases subnetType with
    | «public» =>
        have hName : subnetName .public zone = "Public-Subnet-" ++ toString zone := rfl
        rw [hName, String.toList_append, List.filter_append, hNumber]
        rfl
    | «private» =>
        have hName : subnetName .private zone = "Private-Subnet-" ++ toString zone := rfl
        rw [hName, String.toList_append, List.filter_append, hNumber]
        rfl
  refine ⟨⟨_, hId⟩, ?_, rfl⟩
  rw [ResourceId.sanitized, hText, ResourceId.ofString, dif_pos hId]

/-- The identifiers of the subnets, told by their kinds and zones. -/
theorem subnets_eq_ok (vpc : Value) {maxAzs : Nat} (h : maxAzs ≤ Bounds.nat32) :
    ∃ declared, subnets vpc maxAzs = .ok declared ∧
      declared.map (fun subnet => (subnet.1.text, subnet.2.vpc)) =
        (layout maxAzs).map fun place => (stem place.1 ++ toString place.2, vpc) := by
  have hZone : ∀ place ∈ layout maxAzs, place.2 ≤ Bounds.nat32 := by
    intro place hMem
    simp only [layout, List.mem_append, List.mem_map, List.mem_range] at hMem
    rcases hMem with ⟨_, ⟨index, hIndex, rfl⟩, rfl⟩ | ⟨_, ⟨index, hIndex, rfl⟩, rfl⟩ <;>
      exact Nat.le_trans hIndex h
  have hEach : ∃ declared, subnets vpc maxAzs = .ok declared ∧
      declared.map (fun subnet => (subnet.1.text, subnet.2.vpc)) =
        (layout maxAzs).zipIdx.map fun place => (stem place.1.1 ++ toString place.1.2, vpc) := by
    refine exists_mapM_eq_ok fun ⟨⟨subnetType, zone⟩, index⟩ hMem => ?_
    obtain ⟨id, hSanitized, hText⟩ :=
      sanitized_subnetName subnetType (hZone _ (List.fst_mem_of_mem_zipIdx hMem))
    exact ⟨_, bind_eq_ok_iff.mpr ⟨id, hSanitized, rfl⟩, by rw [hText]⟩
  obtain ⟨declared, hDeclared, hIds⟩ := hEach
  refine ⟨declared, hDeclared, hIds.trans ?_⟩
  conv_rhs => rw [← List.zipIdx_map_fst 0 (layout maxAzs), List.map_map]
  rfl

theorem stem_injective {place place' : SubnetType × Nat}
    (h : stem place.1 ++ toString place.2 = stem place'.1 ++ toString place'.2) :
    place = place' := by
  obtain ⟨subnetType, zone⟩ := place
  obtain ⟨subnetType', zone'⟩ := place'
  have hSecond := congrArg (fun text => text.toList[1]?) h
  cases subnetType <;> cases subnetType' <;> simp [stem] at hSecond
  all_goals exact congrArg _ (numbered_injective _ h)

theorem nodup_layout (maxAzs : Nat) : (layout maxAzs).Nodup := by
  have hZones : ((List.range maxAzs).map (· + 1)).Nodup :=
    List.nodup_range.map fun _ _ h => Nat.succ.inj h
  refine List.nodup_append'.mpr ⟨?_, ?_, ?_⟩
  · exact hZones.map fun _ _ h => (Prod.mk.inj h).2
  · exact hZones.map fun _ _ h => (Prod.mk.inj h).2
  · intro place hPublic hPrivate
    obtain ⟨zone, -, rfl⟩ := List.mem_map.mp hPublic
    obtain ⟨zone', -, hSame⟩ := List.mem_map.mp hPrivate
    cases hSame

/-- The subnets, as far as their identifiers matter. All of these begin with the same letter, and
no other identifier of the tier does. -/
structure AreSubnets (vpc : Value) (declared : List (ResourceId × Subnet)) : Prop where
  ids : (declared.map Prod.fst).Nodup
  initial : ∀ id ∈ declared.map Prod.fst, id.text.toList.head? = some 'P'
  vpc : ∀ subnet ∈ declared, subnet.2.vpc = vpc

theorem areSubnets {vpc : Value} {maxAzs : Nat} {declared : List (ResourceId × Subnet)}
    (h : declared.map (fun subnet => (subnet.1.text, subnet.2.vpc)) =
      (layout maxAzs).map fun place => (stem place.1 ++ toString place.2, vpc)) :
    AreSubnets vpc declared := by
  have hTexts : (declared.map Prod.fst).map ResourceId.text =
      (layout maxAzs).map fun place => stem place.1 ++ toString place.2 := by
    have hFirst := congrArg (List.map Prod.fst) h
    rw [List.map_map, List.map_map] at hFirst
    rwa [List.map_map]
  have hEach : ∀ subnet ∈ declared, ∃ place ∈ layout maxAzs,
      (stem place.1 ++ toString place.2, vpc) = (subnet.1.text, subnet.2.vpc) := by
    intro subnet hMem
    refine List.mem_map.mp ?_
    rw [← h]
    exact List.mem_map.mpr ⟨subnet, hMem, rfl⟩
  refine ⟨List.Nodup.of_map ResourceId.text ?_, fun id hMem => ?_, fun subnet hMem => ?_⟩
  · rw [hTexts]
    exact (nodup_layout maxAzs).map fun _ _ hSame => stem_injective hSame
  · obtain ⟨subnet, hSubnet, rfl⟩ := List.mem_map.mp hMem
    obtain ⟨⟨subnetType, zone⟩, -, hSame⟩ := hEach subnet hSubnet
    rw [← (Prod.mk.inj hSame).1]
    cases subnetType <;> simp [stem]
  · obtain ⟨place, -, hSame⟩ := hEach subnet hMem
    exact (Prod.mk.inj hSame).2.symm

/-! ### The tier -/

/-- The topology before anything is declared in it. -/
def bare (scope : Scope) : Topology :=
  (Topology.new (scope.topologyName "Base") scope.region).allowCrossRegion

/-- The resources of the tier. -/
def resources (maxAzs : Nat) (dns : DnsSettings) (subnets : List (ResourceId × Subnet)) :
    List Resource :=
  [{ id := vpcId
     spec := .vpc
      { cidrBlock, maxAzs, natGateways := maxAzs, dnsHostnames := true, dnsSupport := true } }] ++
    subnets.map (fun subnet => { id := subnet.1, spec := .subnet subnet.2 }) ++
    [{ id := repositoryId, spec := .repository ⟨true⟩ },
      { id := zoneId, spec := .hostedZone ⟨dns.domain⟩ }]

/-- What the tier tells about itself. -/
def outputs (scope : Scope) : List Output :=
  [.exported "OutputEcrImageUrl" ((bare scope).own repositoryId Attribute.repositoryUri),
    .exported "OutputZoneNameServers"
      (.joinList "\n" ((bare scope).own zoneId Attribute.nameServers))]

/-- The tier with all that it declares. -/
def declared (scope : Scope) (maxAzs : Nat) (dns : DnsSettings)
    (subnets : List (ResourceId × Subnet)) : Tier NetworkHandle :=
  let t := bare scope
  { topology := t.filled (resources maxAzs dns subnets) (outputs scope)
    handle :=
      { repositoryUri := t.reference repositoryId Attribute.repositoryUri
        vpc := t.reference vpcId Attribute.self
        subnets := subnets.map fun subnet =>
          { id := subnet.1, subnetType := subnet.2.subnetType
            subnet := t.reference subnet.1 Attribute.self }
        zone := ⟨t.reference zoneId Attribute.self, dns.domain⟩ } }

/-- What later tiers may rely on. -/
structure Created (scope : Scope) (tier : Tier NetworkHandle) : Prop where
  name : tier.topology.name = scope.topologyName "Base"
  region : tier.topology.region = scope.region
  crossRegion : tier.topology.crossRegion = true
  declares : tier.topology.Declares []
  exportNames : tier.topology.exportNames = ["OutputEcrImageUrl", "OutputZoneNameServers"]
  vpc : tier.topology.Offers tier.handle.vpc
  repositoryUri : tier.topology.Offers tier.handle.repositoryUri
  zone : tier.topology.Offers tier.handle.zone.zone
  subnets : ∀ subnet ∈ tier.handle.subnets, tier.topology.Offers subnet.subnet
  subnetIds : ∀ subnet ∈ tier.handle.subnets, subnet.id.text.toList.head? = some 'P'

theorem ids_resources (maxAzs : Nat) (dns : DnsSettings) (subnets : List (ResourceId × Subnet)) :
    (resources maxAzs dns subnets).map Resource.id =
      [vpcId] ++ subnets.map Prod.fst ++ [repositoryId, zoneId] := by
  simp [resources]

theorem nodup_ids {vpc : Value} {subnets : List (ResourceId × Subnet)}
    (h : AreSubnets vpc subnets) :
    ([vpcId] ++ subnets.map Prod.fst ++ [repositoryId, zoneId]).Nodup :=
  nodup_between h.ids h.initial (by decide) (by decide)

theorem sound_resources {scope : Scope} {maxAzs : Nat} {dns : DnsSettings}
    {subnets : List (ResourceId × Subnet)}
    (h : AreSubnets ((bare scope).own vpcId Attribute.self) subnets) {ids : List ResourceId}
    (hVpc : vpcId ∈ ids) : ∀ resource ∈ resources maxAzs dns subnets,
      resource.Sound ((bare scope).Draws [] ids) := by
  intro resource hMem
  simp only [resources, List.mem_append, List.mem_map, List.mem_cons, List.not_mem_nil,
    or_false] at hMem
  rcases hMem with (rfl | ⟨subnet, hSubnet, rfl⟩) | rfl | rfl
  · exact ⟨by simp [Spec.values], by simp [Spec.mapKeys]⟩
  · exact ⟨by simp [Spec.values, h.vpc subnet hSubnet, hVpc], by simp [Spec.mapKeys]⟩
  · exact ⟨by simp [Spec.values], by simp [Spec.mapKeys]⟩
  · exact ⟨by simp [Spec.values], by simp [Spec.mapKeys]⟩

theorem created_declared {scope : Scope} {maxAzs : Nat} {dns : DnsSettings}
    {subnets : List (ResourceId × Subnet)}
    (h : AreSubnets ((bare scope).own vpcId Attribute.self) subnets) :
    Created scope (declared scope maxAzs dns subnets) where
  name := rfl
  region := rfl
  crossRegion := rfl
  declares := by
    refine Topology.declares_filled ([vpcId] ++ subnets.map Prod.fst ++ [repositoryId, zoneId])
      ["OutputEcrImageUrl", "OutputZoneNameServers"] (ids_resources maxAzs dns subnets) rfl
      ⟨nodup_ids h, by decide⟩ ⟨?_, by decide⟩ (sound_resources h (by simp)) ?_ ?_
    · refine forall_between (fun id hMem => ?_) (by decide)
      exact Topology.not_isPrefix_of_head? (by rw [h.initial id hMem]; decide)
    · simp [outputs, Output.exported]
    · simp [bare, Topology.new, Topology.allowCrossRegion]
  exportNames := rfl
  vpc := Topology.offers_reference (by simp [ids_resources]) (by decide)
  repositoryUri := Topology.offers_reference (by simp [ids_resources]) (by decide)
  zone := Topology.offers_reference (by simp [ids_resources]) (by decide)
  subnets := by
    intro handle hMem
    obtain ⟨subnet, hSubnet, rfl⟩ := List.mem_map.mp hMem
    refine Topology.offers_reference ?_ (by decide)
    rw [ids_resources]
    exact List.mem_append_left _ (List.mem_cons_of_mem _ (List.mem_map.mpr ⟨_, hSubnet, rfl⟩))
  subnetIds := by
    intro handle hMem
    obtain ⟨subnet, hSubnet, rfl⟩ := List.mem_map.mp hMem
    exact h.initial _ (List.mem_map.mpr ⟨_, hSubnet, rfl⟩)

theorem create_eq_declared (scope : Scope) {maxAzs : Nat} (dns : DnsSettings)
    (h : maxAzs ≤ Bounds.nat32) :
    ∃ subnets, create scope maxAzs dns = .ok (declared scope maxAzs dns subnets) ∧
      AreSubnets ((bare scope).own vpcId Attribute.self) subnets := by
  obtain ⟨subnets, hSubnets, hTold⟩ := subnets_eq_ok ((bare scope).own vpcId Attribute.self) h
  have hAre := areSubnets hTold
  have hIds : ((resources maxAzs dns subnets).map Resource.id).Nodup := by
    rw [ids_resources]
    exact nodup_ids hAre
  have hDeclare : (bare scope).declare (resources maxAzs dns subnets) =
      .ok ((bare scope).filled (resources maxAzs dns subnets) []) :=
    Topology.declare_of_bare rfl rfl hIds
  have hTell : ((outputs scope).map Output.id).Nodup := by
    change ["OutputEcrImageUrl", "OutputZoneNameServers"].Nodup
    decide
  refine ⟨subnets, ?_, hAre⟩
  unfold create
  exact bind_eq_ok_iff.mpr ⟨subnets, hSubnets, bind_eq_ok_iff.mpr ⟨_, hDeclare,
    bind_eq_ok_iff.mpr ⟨_, Topology.tell_filled _ _ hTell, rfl⟩⟩⟩

theorem create_eq_ok (scope : Scope) {maxAzs : Nat} (dns : DnsSettings)
    (h : maxAzs ≤ Bounds.nat32) :
    ∃ tier, create scope maxAzs dns = .ok tier ∧ Created scope tier := by
  obtain ⟨subnets, hCreate, hAre⟩ := create_eq_declared scope dns h
  exact ⟨_, hCreate, created_declared hAre⟩

end Blueprint.Base
