import Blueprint.Proofs.Tier.Declaration
import Blueprint.Proofs.Topology.Finalization
import Blueprint.Tier.Web

/-! The web tier takes from all others what there is to take. Its declaration never fails: whatever
is there or left out, its identifiers are some of a fixed list of different ones. -/

namespace Blueprint

namespace RuntimeHandle

/-- A service at any time before its declaration. Whatever is attached to it keeps this as long as
the attached values do. -/
structure Attached (id : ResourceId) (P : Reference → Prop) (r : RuntimeHandle) : Prop where
  serviceId : r.serviceId = id
  sound : r.resource.Sound P

variable {id : ResourceId} {P : Reference → Prop} {r : RuntimeHandle}

theorem attached_new {t : Topology} {spec : Service} {cluster : Reference}
    (hValues : ∀ v ∈ (Spec.service spec).values, v.Within P)
    (hKeys : ∀ key ∈ spec.environment.keys, key ∉ Property.reservedKeys) :
    (new t id spec cluster).Attached id P := ⟨rfl, hValues, hKeys⟩

theorem Attached.addExecutionPolicy (h : r.Attached id P) (policy : String) :
    (r.addExecutionPolicy policy).Attached id P := ⟨h.serviceId, h.sound.values, h.sound.mapKeys⟩

theorem Attached.mount (h : r.Attached id P) {volume : VolumeMount}
    (hVolume : volume.fileSystem.Within P) : (r.mount volume).Attached id P := by
  refine ⟨h.serviceId, ?_, h.sound.mapKeys⟩
  have hValues := h.sound.values
  simp only [resource, Spec.values, RuntimeHandle.mount, List.map_append, List.map_cons,
    List.map_nil, List.forall_mem_append, List.forall_mem_cons] at hValues ⊢
  tauto

theorem Attached.connect (h : r.Attached id P) {connection : Connection}
    (hTarget : connection.target.Within P) : (r.connect connection).Attached id P := by
  refine ⟨h.serviceId, ?_, h.sound.mapKeys⟩
  have hValues := h.sound.values
  simp only [resource, Spec.values, RuntimeHandle.connect, List.map_append, List.map_cons,
    List.map_nil, List.forall_mem_append, List.forall_mem_cons] at hValues ⊢
  tauto

theorem Attached.setEnv (h : r.Attached id P) {key : String} {value : Value}
    (hKey : key ∉ Property.reservedKeys) (hValue : value.Within P) :
    (r.setEnv key value).Attached id P := by
  have hOld : ∀ entry ∈ r.spec.environment.entries,
      entry.1 ∉ Property.reservedKeys ∧ entry.2.Within P := fun entry hMem =>
    ⟨h.sound.mapKeys _ (List.mem_map.mpr ⟨entry, hMem, rfl⟩),
      h.sound.values _ (List.mem_append_right _ (List.mem_map.mpr ⟨entry, hMem, rfl⟩))⟩
  have hEntries : ∀ entry ∈ (r.spec.environment.insert key value).entries,
      entry.1 ∉ Property.reservedKeys ∧ entry.2.Within P :=
    Dict.forall_entries_insert ⟨hKey, hValue⟩ hOld
  refine ⟨h.serviceId, List.forall_mem_append.mpr ⟨?_, ?_⟩, ?_⟩
  · exact (List.forall_mem_append.mp h.sound.values).1
  · exact List.forall_mem_map.mpr fun entry hMem => (hEntries entry hMem).2
  · exact List.forall_mem_map.mpr fun entry hMem => (hEntries entry hMem).1

theorem finalize_eq_ok {t t' : Topology} (h : t.add r.resource = .ok t') :
    r.finalize t = .ok ({ r with finalized := true }, t') := by
  obtain ⟨hFree, rfl⟩ := Topology.add_eq_ok_iff.mp h
  rw [finalize, declareIn, Topology.declareResource_of_free hFree]
  rfl

end RuntimeHandle

namespace Web

/-- The topology before anything is declared in it. -/
def bare (inputs : Inputs) : Topology :=
  (Topology.new (inputs.scope.topologyName "Web") inputs.scope.region).allowCrossRegion.dependOnAll
    (imports inputs)

/-- The identifiers of all resources that the tier may have. -/
def allIds : List ResourceId :=
  [clusterId, databaseRuleId, filesystemRuleId, databasePolicyId, emailPolicyId, distributionId,
    rootRecordId, hostRecordId, serviceId]

/-- The resources with the service behind them. -/
def allResources (inputs : Inputs) : List Resource :=
  resources (bare inputs) inputs ++ [(runtime (bare inputs) inputs).resource]

/-- The variables of the service: names of secrets, the address of the site, and its hosts. -/
def environment (t : Topology) (inputs : Inputs) : Dict Value :=
  let secrets : Dict Value := (grants inputs).foldl
    (fun known grant => known.insert grant.key (.literal grant.credentials.name)) .empty
  (secrets.insert siteVariable (siteAddress t inputs.certificate)).insert hostsVariable
    (.concat [.literal "^", t.own serviceId Attribute.loadBalancerName, .literal "$"])

/-- The service with all that is attached to it. -/
def service (t : Topology) (inputs : Inputs) : Service :=
  { bareService t inputs with
    executionPolicies := ["AmazonEC2ContainerRegistryPowerUser"]
    volumes :=
      [{ name := "appfiles"
         fileSystem := t.imported inputs.database.filesystem.fileSystem
         path := "/mnt/efs"
         readOnly := false }]
    connections := (openings inputs.database).map fun opening => opening.connection t
    environment := environment t inputs }

theorem resource_runtime (t : Topology) (inputs : Inputs) :
    (runtime t inputs).resource = { id := serviceId, spec := .service (service t inputs) } := by
  obtain ⟨scope, dns, settings, network, database, email, certificate⟩ := inputs
  cases email <;> rfl

theorem serviceId_runtime (inputs : Inputs) :
    (runtime (bare inputs) inputs).serviceId = serviceId :=
  congrArg Resource.id (resource_runtime (bare inputs) inputs)

/-- The record of a name. -/
def aliasRecord (t : Topology) (inputs : Inputs) (name : String) : AliasRecord :=
  { zone := t.imported inputs.network.zone.zone
    name
    recordType := "A"
    target := t.own distributionId Attribute.domainName }

/-- The content network is declared first, then one record for each name. -/
theorem frontResources_eq (t : Topology) (inputs : Inputs) (certificate : CertificateHandle) :
    frontResources t inputs certificate =
      { id := distributionId, spec := .distribution (distribution t inputs certificate) } ::
        (recordNames inputs.dns).map fun named =>
          { id := named.1, spec := .aliasRecord (aliasRecord t inputs named.2) } := rfl

/-! ### What is imported -/

/-- What the service needs of other tiers. -/
def innerImports (inputs : Inputs) : List Reference :=
  inputs.network.vpc :: inputs.network.repositoryUri ::
    inputs.network.privateSubnets.map SubnetHandle.subnet ++
    inputs.database.filesystem.fileSystem :: (openings inputs.database).map Opening.group ++
    (grants inputs).map fun grant => grant.credentials.secret

/-- What stands in front of the service needs the certificate and the zone. -/
theorem imports_eq (inputs : Inputs) : imports inputs =
    innerImports inputs ++ inputs.certificate.toList.flatMap fun certificate =>
      [certificate.certificate, inputs.network.zone.zone] := rfl

section

variable {inputs : Inputs} {ids : List ResourceId} {known : List Reference}

section

variable (hKnown : innerImports inputs ⊆ known)

include hKnown

theorem within_vpc : ((bare inputs).imported inputs.network.vpc).Within
    ((bare inputs).Draws known ids) :=
  Topology.within_imported (hKnown (by simp [innerImports]))

theorem within_repositoryUri : ((bare inputs).imported inputs.network.repositoryUri).Within
    ((bare inputs).Draws known ids) :=
  Topology.within_imported (hKnown (by simp [innerImports]))

theorem within_subnet {subnet : SubnetHandle} (h : subnet ∈ inputs.network.privateSubnets) :
    ((bare inputs).imported subnet.subnet).Within ((bare inputs).Draws known ids) := by
  refine Topology.within_imported (hKnown ?_)
  have hMem : subnet.subnet ∈ inputs.network.privateSubnets.map SubnetHandle.subnet :=
    List.mem_map.mpr ⟨subnet, h, rfl⟩
  simp [innerImports, hMem]

theorem within_fileSystem :
    ((bare inputs).imported inputs.database.filesystem.fileSystem).Within
      ((bare inputs).Draws known ids) :=
  Topology.within_imported (hKnown (by simp [innerImports]))

theorem within_group {opening : Opening} (h : opening ∈ openings inputs.database) :
    ((bare inputs).imported opening.group).Within ((bare inputs).Draws known ids) := by
  refine Topology.within_imported (hKnown ?_)
  have hMem : opening.group ∈ (openings inputs.database).map Opening.group :=
    List.mem_map.mpr ⟨opening, h, rfl⟩
  simp [innerImports, hMem]

theorem within_secret {grant : Grant} (h : grant ∈ grants inputs) :
    ((bare inputs).imported grant.credentials.secret).Within ((bare inputs).Draws known ids) := by
  refine Topology.within_imported (hKnown ?_)
  have hMem : grant.credentials.secret ∈
      (grants inputs).map fun grant => grant.credentials.secret :=
    List.mem_map.mpr ⟨grant, h, rfl⟩
  simp [innerImports, hMem]

end

/-! ### What is declared -/

/-- The resources that the service needs. -/
def innerResources (t : Topology) (inputs : Inputs) : List Resource :=
  { id := clusterId, spec := .computeCluster ⟨t.imported inputs.network.vpc⟩ } ::
    (openings inputs.database).map (fun opening => opening.resource t) ++
    (grants inputs).map fun grant => grant.resource t

theorem allResources_eq : allResources inputs =
    innerResources (bare inputs) inputs ++
      (inputs.certificate.toList.flatMap fun certificate =>
        frontResources (bare inputs) inputs certificate) ++
      [{ id := serviceId, spec := .service (service (bare inputs) inputs) }] := by
  rw [allResources, resource_runtime]
  rfl

theorem within_siteAddress (hService : serviceId ∈ ids) :
    (siteAddress (bare inputs) inputs.certificate).Within ((bare inputs).Draws known ids) := by
  unfold siteAddress
  split
  · exact Value.within_literal _
  · simp [hService]

theorem within_outputs (hCluster : clusterId ∈ ids) (hService : serviceId ∈ ids) :
    ∀ output ∈ outputs (bare inputs) inputs,
      output.value.Within ((bare inputs).Draws known ids) := by
  simp [outputs, Output.exported, hCluster, hService, within_siteAddress hService]

section

variable (hKnown : innerImports inputs ⊆ known)

include hKnown

/-- The service is complete step by step, and every step keeps it sound. -/
theorem attached_runtime (hCluster : clusterId ∈ ids) (hService : serviceId ∈ ids) :
    (runtime (bare inputs) inputs).Attached serviceId ((bare inputs).Draws known ids) := by
  have hBare : (RuntimeHandle.new (bare inputs) serviceId (bareService (bare inputs) inputs)
      ((bare inputs).reference clusterId Attribute.self)).Attached serviceId
        ((bare inputs).Draws known ids) := by
    refine RuntimeHandle.attached_new ?_ ?_
    · have hSubnets : ∀ v ∈ inputs.network.privateSubnets.map fun subnet =>
          (bare inputs).imported subnet.subnet, v.Within ((bare inputs).Draws known ids) :=
        List.forall_mem_map.mpr fun subnet hMem => within_subnet hKnown hMem
      simp only [Spec.values, bareService, List.forall_mem_append]
      refine ⟨⟨⟨⟨?_, hSubnets⟩, ?_⟩, ?_⟩, ?_⟩
      · simp [hCluster, within_repositoryUri hKnown]
      · simp
      · simp
      · simp [Dict.empty, Dict.values]
    · simp [bareService, Dict.empty, Dict.keys]
  refine RuntimeHandle.Attached.setEnv ?_ (by decide) (by simp [hService])
  refine RuntimeHandle.Attached.setEnv ?_ (by decide) (within_siteAddress hService)
  refine List.foldlRecOn _ _ ?_ fun service hAttached grant hGrant => ?_
  · refine List.foldlRecOn _ _ ?_ fun service hAttached opening hOpening => ?_
    · exact (hBare.addExecutionPolicy _).mount (within_fileSystem hKnown)
    · exact hAttached.connect (within_group hKnown hOpening)
  · refine hAttached.setEnv ?_ (Value.within_literal _)
    have hKeys : grant.key = databaseSecretVariable ∨ grant.key = emailSecretVariable := by
      simp only [grants, List.mem_cons, List.mem_map] at hGrant
      rcases hGrant with rfl | ⟨email, -, rfl⟩
      · exact .inl rfl
      · exact .inr rfl
    rcases hKeys with hKey | hKey <;> rw [hKey] <;> decide

theorem sound_service (hCluster : clusterId ∈ ids) (hService : serviceId ∈ ids) :
    Resource.Sound ((bare inputs).Draws known ids)
      { id := serviceId, spec := .service (service (bare inputs) inputs) } := by
  rw [← resource_runtime]
  exact (attached_runtime hKnown hCluster hService).sound

theorem sound_innerResources (hService : serviceId ∈ ids) :
    ∀ resource ∈ innerResources (bare inputs) inputs,
      resource.Sound ((bare inputs).Draws known ids) := by
  refine List.forall_mem_append.mpr ⟨List.forall_mem_cons.mpr ⟨⟨?_, ?_⟩, ?_⟩, ?_⟩
  · simp [Spec.values, within_vpc hKnown]
  · simp [Spec.mapKeys]
  · refine List.forall_mem_map.mpr fun opening hOpening =>
      ⟨?_, by simp [Opening.resource, Spec.mapKeys]⟩
    simp [Opening.resource, Spec.values, IngressSource.values, within_group hKnown hOpening,
      hService]
  · refine List.forall_mem_map.mpr fun grant hGrant => ⟨?_, by simp [Grant.resource, Spec.mapKeys]⟩
    have hStatement : (grant.credentials.retrieval (bare inputs)).1.resources =
        [(bare inputs).imported grant.credentials.secret] := rfl
    simp [Grant.resource, Spec.values, PolicyHolder.value, hStatement, within_secret hKnown hGrant,
      hService]

end

theorem sound_frontResources {certificate : CertificateHandle}
    (hCertificate : certificate.certificate ∈ known) (hZone : inputs.network.zone.zone ∈ known)
    (hService : serviceId ∈ ids) (hDistribution : distributionId ∈ ids) :
    ∀ resource ∈ frontResources (bare inputs) inputs certificate,
      resource.Sound ((bare inputs).Draws known ids) := by
  refine List.forall_mem_cons.mpr ⟨⟨?_, ?_⟩, List.forall_mem_map.mpr fun record _ => ⟨?_, ?_⟩⟩
  · simp [Spec.values, distribution, hService, Topology.within_imported hCertificate]
  · simp [Spec.mapKeys]
  · simp [Spec.values, hDistribution, Topology.within_imported hZone]
  · simp [Spec.mapKeys]

theorem sound_resources (hCluster : clusterId ∈ ids) (hService : serviceId ∈ ids)
    (hDistribution : inputs.certificate.isSome = true → distributionId ∈ ids) :
    ∀ resource ∈ allResources inputs,
      resource.Sound ((bare inputs).Draws (imports inputs) ids) := by
  have hKnown : innerImports inputs ⊆ imports inputs := by
    rw [imports_eq]
    exact List.subset_append_left _ _
  rw [allResources_eq]
  refine List.forall_mem_append.mpr ⟨List.forall_mem_append.mpr
    ⟨sound_innerResources hKnown hService, ?_⟩,
    List.forall_mem_singleton.mpr (sound_service hKnown hCluster hService)⟩
  refine List.forall_mem_flatMap.mpr fun certificate hMem => ?_
  have hCertificate : inputs.certificate = some certificate := Option.mem_toList.mp hMem
  exact sound_frontResources (by simp [imports, hCertificate]) (by simp [imports, hCertificate])
    hService (hDistribution (by simp [hCertificate]))

end

/-! ### The tier -/

def exportNames : List String :=
  [siteOutput, "OutputEcsClusterArn", "OutputEcsServiceArn", "OutputEcsTaskLogGroup"]

/-- The tier with all that it declares. -/
def declared (inputs : Inputs) : Tier RuntimeHandle :=
  { topology := (bare inputs).filled (allResources inputs) (outputs (bare inputs) inputs)
    handle := { runtime (bare inputs) inputs with finalized := true } }

/-- What an assembly may rely on. -/
structure Created (inputs : Inputs) (tier : Tier RuntimeHandle) : Prop where
  name : tier.topology.name = inputs.scope.topologyName "Web"
  region : tier.topology.region = inputs.scope.region
  crossRegion : tier.topology.crossRegion = true
  declares : tier.topology.Declares (imports inputs)
  exportNames : tier.topology.exportNames = exportNames

/-- What is left out leaves the other identifiers as they are. -/
theorem ids_sublist (inputs : Inputs) :
    ((allResources inputs).map Resource.id).Sublist allIds := by
  have hEmail : (inputs.email.toList.map fun _ => emailPolicyId).Sublist [emailPolicyId] := by
    cases inputs.email <;> simp
  have hRecords : ((recordNames inputs.dns).map Prod.fst).Sublist [rootRecordId, hostRecordId] := by
    unfold recordNames
    cases inputs.dns.root <;> cases inputs.dns.host <;> simp
  have hFront : (inputs.certificate.toList.flatMap fun _ =>
      distributionId :: (recordNames inputs.dns).map Prod.fst).Sublist
        [distributionId, rootRecordId, hostRecordId] :=
    flatMap_toList_sublist fun _ _ => hRecords.cons_cons _
  have hIds : (allResources inputs).map Resource.id =
      [clusterId, databaseRuleId, filesystemRuleId, databasePolicyId] ++
        (inputs.email.toList.map fun _ => emailPolicyId) ++
        (inputs.certificate.toList.flatMap fun _ =>
          distributionId :: (recordNames inputs.dns).map Prod.fst) ++ [serviceId] := by
    have hService : (runtime (bare inputs) inputs).resource.id = serviceId :=
      serviceId_runtime inputs
    simp [allResources, resources, openings, grants, frontResources, Opening.resource,
      Grant.resource, hService, List.map_flatMap, Function.comp_def]
  rw [hIds]
  exact (((List.Sublist.refl _).append hEmail).append hFront).append (List.Sublist.refl _)

theorem created_declared (inputs : Inputs) : Created inputs (declared inputs) where
  name := Topology.dependOnAll_name _ _
  region := Topology.dependOnAll_region _ _
  crossRegion := Topology.dependOnAll_crossRegion _ _
  declares := by
    have hSublist := ids_sublist inputs
    have hFree : ∀ id ∈ allIds, ¬ "Exports".toList <+: id.text.toList := by decide
    have hCluster : clusterId ∈ (allResources inputs).map Resource.id := by
      simp [allResources, resources]
    have hService : serviceId ∈ (allResources inputs).map Resource.id := by
      rw [allResources, List.map_append]
      exact List.mem_append_right _ (by simp [RuntimeHandle.resource, serviceId_runtime])
    have hDistribution : inputs.certificate.isSome = true →
        distributionId ∈ (allResources inputs).map Resource.id := by
      intro hSome
      obtain ⟨certificate, hCertificate⟩ := Option.isSome_iff_exists.mp hSome
      simp [allResources, resources, frontResources, hCertificate]
    refine Topology.declares_filled ((allResources inputs).map Resource.id) exportNames rfl rfl
      ⟨hSublist.nodup (by decide), by decide⟩
      ⟨fun id hMem => hFree id (hSublist.subset hMem), by decide⟩
      (sound_resources hCluster hService hDistribution) (within_outputs hCluster hService) ?_
    intro name
    rw [bare, Topology.mem_dependencies_dependOnAll]
    simp [Topology.new, Topology.allowCrossRegion]
  exportNames := rfl

/-! ### What is used -/

section

variable {inputs : Inputs}

theorem mem_allResources_service :
    { id := serviceId, spec := .service (service (bare inputs) inputs) } ∈ allResources inputs := by
  rw [allResources, resource_runtime]
  exact List.mem_append_right _ (List.mem_singleton_self _)

theorem mem_allResources {resource : Resource}
    (h : resource = { id := clusterId
                      spec := .computeCluster ⟨(bare inputs).imported inputs.network.vpc⟩ } ∨
      (∃ opening ∈ openings inputs.database, opening.resource (bare inputs) = resource) ∨
      (∃ grant ∈ grants inputs, grant.resource (bare inputs) = resource) ∨
      ∃ certificate ∈ inputs.certificate,
        resource ∈ frontResources (bare inputs) inputs certificate) :
    resource ∈ allResources inputs :=
  List.mem_append_left _ (by simpa [resources] using h)

theorem recordNames_ne_nil {dns : DnsSettings} (h : dns.wantsCertificate = true) :
    recordNames dns ≠ [] := by
  obtain ⟨domain, host, root⟩ := dns
  cases host <;> cases root <;> simp_all [recordNames, DnsSettings.wantsCertificate]

/-- Nothing is imported in vain; the zone is used by the records of the served names. -/
theorem usesAll_declared
    (hNames : inputs.certificate.isSome = true → inputs.dns.wantsCertificate = true) :
    (declared inputs).topology.UsesAll (imports inputs) := by
  have hUsed : ∀ {resource : Resource} {v : Value} {i : Reference},
      resource ∈ allResources inputs → v ∈ resource.spec.values →
        (bare inputs).localized i ∈ v.references →
          (declared inputs).topology.localized i ∈ (declared inputs).topology.embedded :=
    fun hMem hValue hReference => Topology.mem_embedded_of_resource hMem hValue hReference
  have hOwn : ∀ i, (bare inputs).localized i ∈ ((bare inputs).imported i).references := by simp
  intro i hImport
  simp only [imports, List.mem_append, List.mem_cons, List.mem_map, List.mem_flatMap,
    List.not_mem_nil, or_false, Option.mem_toList] at hImport
  rcases hImport with (((rfl | rfl | ⟨subnet, hPrivate, rfl⟩) | rfl | ⟨opening, hOpening, rfl⟩) |
      ⟨grant, hGrant, rfl⟩) | ⟨certificate, hCertificate, rfl | rfl⟩
  · refine hUsed (mem_allResources (.inl rfl)) ?_ (hOwn _)
    simp [Spec.values]
  · refine hUsed (v := (bareService (bare inputs) inputs).image) mem_allResources_service ?_ ?_
    · simp [Spec.values, service]
    · simp [bareService, Value.concat, Value.references, Value.referencesOf]
  · refine hUsed mem_allResources_service ?_ (hOwn _)
    simp only [Spec.values, service, bareService, List.mem_append, List.mem_map]
    exact .inl (.inl (.inl (.inr ⟨subnet, hPrivate, rfl⟩)))
  · refine hUsed mem_allResources_service ?_ (hOwn _)
    simp [Spec.values, service]
  · refine hUsed (mem_allResources (.inr (.inl ⟨opening, hOpening, rfl⟩))) ?_ (hOwn _)
    simp [Opening.resource, Spec.values]
  · refine hUsed (mem_allResources (.inr (.inr (.inl ⟨grant, hGrant, rfl⟩)))) ?_ (hOwn _)
    exact List.mem_cons_of_mem _ (List.mem_singleton_self _)
  · refine hUsed (mem_allResources
      (.inr (.inr (.inr ⟨certificate, hCertificate, List.mem_cons_self⟩)))) ?_ (hOwn _)
    simp [Spec.values, distribution]
  · obtain ⟨named, rest, hNamed⟩ :=
      List.exists_cons_of_ne_nil (recordNames_ne_nil (hNames (by simp [hCertificate])))
    have hRecord :
        { id := named.1, spec := .aliasRecord (aliasRecord (bare inputs) inputs named.2) } ∈
          frontResources (bare inputs) inputs certificate := by
      simp [frontResources_eq, hNamed]
    refine hUsed (mem_allResources (.inr (.inr (.inr ⟨certificate, hCertificate, hRecord⟩)))) ?_
      (hOwn _)
    simp [aliasRecord, Spec.values]

end

/-! ### What is marked -/

section

variable {inputs : Inputs}

/-- In front of the service only the certificate can be marked, as long as the zone is near. -/
theorem marked_frontResources (certificate : CertificateHandle)
    (hZone : ((bare inputs).localized inputs.network.zone.zone).crossRegion = false) :
    ((frontResources (bare inputs) inputs certificate).flatMap fun resource =>
      resource.spec.values.flatMap Value.references).filter Reference.crossRegion =
        [(bare inputs).localized certificate.certificate].filter Reference.crossRegion := by
  have hRecords : ((recordNames inputs.dns).flatMap fun named =>
      (Spec.aliasRecord (aliasRecord (bare inputs) inputs named.2)).values.flatMap
        Value.references).filter Reference.crossRegion = [] := by
    rw [List.filter_flatMap]
    refine List.flatMap_eq_nil_iff.mpr fun named _ => ?_
    simp [Spec.values, aliasRecord, hZone, Topology.own, Topology.reference, Value.references]
  rw [frontResources_eq, List.flatMap_cons, List.flatMap_map, List.filter_append, hRecords,
    List.append_nil]
  simp [Spec.values, distribution, Topology.own, Topology.reference, Value.references]

/-- If all that the service needs is near and so is the zone, only the certificate can be marked. -/
theorem marked_declared
    (hNear : ∀ i ∈ innerImports inputs, ((bare inputs).localized i).crossRegion = false)
    (hZone : ((bare inputs).localized inputs.network.zone.zone).crossRegion = false) :
    (declared inputs).topology.marked =
      (inputs.certificate.toList.map fun certificate =>
        (bare inputs).localized certificate.certificate).filter Reference.crossRegion := by
  have hNone : ∀ {references : List Reference},
      (∀ r ∈ references, (bare inputs).Draws (innerImports inputs) allIds r) →
        references.filter Reference.crossRegion = [] := by
    intro references hDraws
    refine List.filter_eq_nil_iff.mpr fun r hMem => ?_
    rw [(hDraws r hMem).unmarked hNear]
    exact Bool.false_ne_true
  have hInner : ((innerResources (bare inputs) inputs).flatMap fun resource =>
      resource.spec.values.flatMap Value.references).filter Reference.crossRegion = [] :=
    hNone (List.forall_mem_flatMap.mpr fun resource hMem => List.forall_mem_flatMap.mpr
      (sound_innerResources (List.Subset.refl _) (by decide) resource hMem).values)
  have hService : ((Spec.service (service (bare inputs) inputs)).values.flatMap
      Value.references).filter Reference.crossRegion = [] :=
    hNone (List.forall_mem_flatMap.mpr
      (sound_service (List.Subset.refl _) (by decide) (by decide)).values)
  have hOutputs : ((outputs (bare inputs) inputs).flatMap fun output =>
      output.value.references).filter Reference.crossRegion = [] :=
    hNone (List.forall_mem_flatMap.mpr (within_outputs (by decide) (by decide)))
  have hEmbedded : ((declared inputs).topology.embedded).filter Reference.crossRegion =
      (inputs.certificate.toList.map fun certificate =>
        (bare inputs).localized certificate.certificate).filter Reference.crossRegion := by
    change ((allResources inputs).flatMap _ ++ (outputs (bare inputs) inputs).flatMap _).filter _ =
      _
    rw [allResources_eq, List.flatMap_append, List.flatMap_append, List.flatMap_singleton,
      List.filter_append, List.filter_append, List.filter_append, hInner, hService, hOutputs,
      List.append_nil, List.append_nil, List.nil_append]
    cases inputs.certificate with
    | none => rfl
    | some certificate =>
        rw [Option.toList_some, List.flatMap_singleton, List.map_singleton]
        exact marked_frontResources certificate hZone
  refine eq_of_perm_of_length_le_one ((Topology.marked_perm _).trans (.of_eq hEmbedded)) ?_
  refine Nat.le_trans (List.length_filter_le _ _) ?_
  rw [List.length_map]
  cases inputs.certificate <;> simp

end

theorem nodup_ids (inputs : Inputs) : ((allResources inputs).map Resource.id).Nodup :=
  (ids_sublist inputs).nodup (by decide)

/-- The service can be declared behind the other resources: none of them has its identifier. -/
theorem add_runtime (inputs : Inputs) :
    ((bare inputs).filled (resources (bare inputs) inputs) []).add
        (runtime (bare inputs) inputs).resource =
      .ok ((bare inputs).filled (allResources inputs) []) := by
  have hIds := nodup_ids inputs
  rw [allResources, List.map_append] at hIds
  refine Topology.add_eq_ok_iff.mpr ⟨fun hMem => ?_, rfl⟩
  exact (List.nodup_append'.mp hIds).2.2 hMem (List.mem_singleton_self _)

theorem create_eq_declared (inputs : Inputs) : create inputs = .ok (declared inputs) := by
  have hFirst : ((resources (bare inputs) inputs).map Resource.id).Nodup := by
    have hIds := nodup_ids inputs
    rw [allResources, List.map_append] at hIds
    exact (List.nodup_append'.mp hIds).1
  have hDeclare : (bare inputs).declare (resources (bare inputs) inputs) =
      .ok ((bare inputs).filled (resources (bare inputs) inputs) []) :=
    Topology.declare_of_bare (Topology.dependOnAll_resources _ _)
      (Topology.dependOnAll_outputs _ _) hFirst
  have hTell : ((outputs (bare inputs) inputs).map Output.id).Nodup := by
    change exportNames.Nodup
    decide
  unfold create
  exact bind_eq_ok_iff.mpr ⟨_, hDeclare, bind_eq_ok_iff.mpr
    ⟨_, RuntimeHandle.finalize_eq_ok (add_runtime inputs), bind_eq_ok_iff.mpr
      ⟨_, Topology.tell_filled _ _ hTell, rfl⟩⟩⟩

theorem create_eq_ok (inputs : Inputs) :
    ∃ tier, create inputs = .ok tier ∧ Created inputs tier :=
  ⟨_, create_eq_declared inputs, created_declared inputs⟩

/-- Nothing is attached to the service any more when it is declared, so that what others read off
its handle is what is deployed. -/
theorem agrees_of_create {inputs : Inputs} {tier : Tier RuntimeHandle}
    (h : create inputs = .ok tier) : Site.Agrees ⟨tier.handle, tier.topology⟩ := by
  obtain rfl : declared inputs = tier := Except.ok.inj ((create_eq_declared inputs).symm.trans h)
  exact ⟨_, Topology.declarations_of_add (add_runtime inputs), rfl⟩

end Web

end Blueprint
