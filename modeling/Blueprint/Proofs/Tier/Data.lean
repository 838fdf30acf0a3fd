import Blueprint.Proofs.Tier.Declaration
import Blueprint.Proofs.Tier.Numbered
import Blueprint.Tier.Data

/-! The data tier takes the network and its private subnets. Its declaration cannot fail for any
number of machines that a document can ask for. -/

namespace Blueprint.Data

/-- The references that the tier takes from others, in the order of their first use. -/
def imports (network : NetworkHandle) : List Reference :=
  network.vpc :: network.privateSubnets.map SubnetHandle.subnet

/-- The topology before anything is declared in it. -/
def bare (scope : Scope) (network : NetworkHandle) : Topology :=
  (Topology.new (scope.topologyName "Data") scope.region).dependOnAll (imports network)

/-- The private subnets as the tier uses them. -/
def subnets (scope : Scope) (network : NetworkHandle) : List (ResourceId × Value) :=
  network.privateSubnets.map fun subnet => (subnet.id, (bare scope network).imported subnet.subnet)

/-! ### The machines -/

theorem instanceId_eq_ok {n : Nat} (h : n ≤ Bounds.nat32) :
    ∃ id, instanceId n = .ok id ∧ id.text = "AuroraClusterInstance" ++ toString n := by
  have hId : IsResourceId ("AuroraClusterInstance" ++ toString n) :=
    isResourceId_numbered (by decide) (by decide) h
  refine ⟨⟨_, hId⟩, ?_, rfl⟩
  rw [instanceId, ResourceId.ofString, dif_pos hId]

/-- The machines of a cluster: as many as are wanted, numbered from one on, each with the identifier
for its number. -/
structure AreInstances (replicas : Nat) (instances : List (Nat × ResourceId)) : Prop where
  numbers : instances.map Prod.fst = (List.range replicas).map (· + 1)
  texts : ∀ machine ∈ instances, machine.2.text = "AuroraClusterInstance" ++ toString machine.1

theorem instances_eq_ok {replicas : Nat} (h : replicas ≤ Bounds.nat32) :
    ∃ instances, (((List.range replicas).map (· + 1)).mapM fun n => do
      return (n, ← instanceId n) : Except ModelError (List (Nat × ResourceId))) = .ok instances ∧
        AreInstances replicas instances := by
  have hEach : ∃ instances, (((List.range replicas).map (· + 1)).mapM fun n => do
      return (n, ← instanceId n) : Except ModelError (List (Nat × ResourceId))) = .ok instances ∧
        instances.map (fun machine => (machine.1, machine.2.text)) =
          ((List.range replicas).map (· + 1)).map fun n =>
            (n, "AuroraClusterInstance" ++ toString n) := by
    refine exists_mapM_eq_ok fun n hMem => ?_
    obtain ⟨index, hIndex, rfl⟩ := List.mem_map.mp hMem
    obtain ⟨id, hId, hText⟩ := instanceId_eq_ok (Nat.le_trans (List.mem_range.mp hIndex) h)
    exact ⟨(index + 1, id), bind_eq_ok_iff.mpr ⟨id, hId, rfl⟩, Prod.ext rfl hText⟩
  obtain ⟨instances, hInstances, hPairs⟩ := hEach
  refine ⟨instances, hInstances, ?_, fun machine hMem => ?_⟩
  · simpa [Function.comp_def] using congrArg (List.map Prod.fst) hPairs
  · have hPair : (machine.1, machine.2.text) ∈
        instances.map fun machine => (machine.1, machine.2.text) :=
      List.mem_map.mpr ⟨machine, hMem, rfl⟩
    rw [hPairs] at hPair
    obtain ⟨n, -, hSame⟩ := List.mem_map.mp hPair
    obtain ⟨rfl, hText⟩ := Prod.mk.inj hSame
    exact hText.symm

namespace AreInstances

variable {replicas : Nat} {instances : List (Nat × ResourceId)}
  (h : AreInstances replicas instances)

include h

theorem texts_eq : (instances.map Prod.snd).map ResourceId.text =
    ((List.range replicas).map (· + 1)).map fun n => "AuroraClusterInstance" ++ toString n := by
  rw [← h.numbers, List.map_map, List.map_map]
  exact List.map_congr_left h.texts

theorem nodup : (instances.map Prod.snd).Nodup := by
  refine List.Nodup.of_map ResourceId.text ?_
  rw [h.texts_eq]
  exact (List.nodup_range.map fun _ _ hSame => Nat.succ.inj hSame).map (numbered_injective _)

theorem stem :
    ∀ id ∈ instances.map Prod.snd, "AuroraClusterInstance".toList <+: id.text.toList := by
  refine List.forall_mem_map.mpr fun machine hMem => ?_
  rw [h.texts machine hMem, String.toList_append]
  exact List.prefix_append _ _

end AreInstances

/-! ### The resources -/

def idsBefore : List ResourceId :=
  [groupId, selfIngressId, parameterGroupId, secretId, keyId, clusterId]

def idsAfter : List ResourceId := [rotationId, filesystemGroupId, filesystemId, dashboardId]

/-- The identifiers of all resources. -/
def ids (instances : List (Nat × ResourceId)) : List ResourceId :=
  idsBefore ++ instances.map Prod.snd ++ idsAfter

theorem nodup_ids {replicas : Nat} {instances : List (Nat × ResourceId)}
    (h : AreInstances replicas instances) :
    (ids instances).Nodup :=
  nodup_between h.nodup h.stem (by decide) (by decide)

theorem mem_ids {instances : List (Nat × ResourceId)} {id : ResourceId}
    (h : id ∈ idsBefore ++ idsAfter) : id ∈ ids instances := by
  rw [List.mem_append] at h
  rw [ids, List.mem_append, List.mem_append]
  exact h.imp_left .inl

/-- The configured sources are addresses and names of other firewalls, never references. -/
theorem values_ingressRules (engine : EngineProfile) (sources : List Peer) :
    (ingressRules engine sources).flatMap (fun rule => rule.source.values) = [] := by
  refine List.flatMap_eq_nil_iff.mpr fun rule hMem => ?_
  obtain ⟨source, -, hRule⟩ := List.mem_flatMap.mp hMem
  rcases List.mem_cons.mp hRule with rfl | hAuxiliary
  · rfl
  · obtain ⟨port, -, rfl⟩ := List.mem_map.mp hAuxiliary
    rfl

theorem keys_parameters (engine : Engine) (babelfish : Bool) :
    ∀ key ∈ (parameters engine.profile babelfish).keys, key ∉ Property.reservedKeys := by
  cases engine <;> cases babelfish <;> decide

/-- Every metric of the dashboard is one of the cluster. -/
theorem sound_dashboard {P : Reference → Prop} (name : String) {cluster : Value}
    (hCluster : cluster.Within P) (id : ResourceId) :
    Resource.Sound P { id, spec := .dashboard (.ofCluster name cluster) } := by
  have hMetric : ∀ graph ∈ (Dashboard.ofCluster name cluster).graphs, ∀ metric ∈ graph.left,
      ∃ measured, metric = Dashboard.clusterMetric cluster measured := by
    intro graph hGraph metric hLeft
    obtain ⟨row, hRow, hMem⟩ := List.mem_flatten.mp hGraph
    obtain ⟨titles, -, rfl⟩ := List.mem_map.mp hRow
    obtain ⟨title, -, rfl⟩ := List.mem_map.mp hMem
    obtain ⟨measured, -, rfl⟩ := List.mem_map.mp hLeft
    exact ⟨measured, rfl⟩
  constructor
  · intro v hValue
    obtain ⟨graph, hGraph, hLeft⟩ := List.mem_flatMap.mp hValue
    obtain ⟨metric, hMem, hDimension⟩ := List.mem_flatMap.mp hLeft
    obtain ⟨measured, rfl⟩ := hMetric graph hGraph metric hMem
    rwa [List.mem_singleton.mp hDimension]
  · intro key hKey
    obtain ⟨graph, hGraph, hLeft⟩ := List.mem_flatMap.mp hKey
    obtain ⟨metric, hMem, hDimension⟩ := List.mem_flatMap.mp hLeft
    obtain ⟨measured, rfl⟩ := hMetric graph hGraph metric hMem
    rw [List.mem_singleton.mp hDimension]
    change "DBClusterIdentifier" ∉ Property.reservedKeys
    decide

/-- No key with a meaning of its own begins as the identifiers of subnets do. -/
theorem not_mem_reservedKeys {key : String} (h : key.toList.head? = some 'P') :
    key ∉ Property.reservedKeys := by
  have hKeys : ∀ reserved ∈ Property.reservedKeys, reserved.toList.head? ≠ some 'P' := by decide
  exact fun hMem => hKeys key hMem h

section

variable {scope : Scope} {network : NetworkHandle} {settings : DatabaseSettings}
  {instances : List (Nat × ResourceId)}

theorem within_vpc : ((bare scope network).imported network.vpc).Within
    ((bare scope network).Draws (imports network) (ids instances)) :=
  Topology.within_imported (List.mem_cons_self ..)

theorem within_subnets : ∀ v ∈ (subnets scope network).map Prod.snd,
    v.Within ((bare scope network).Draws (imports network) (ids instances)) := by
  refine List.forall_mem_map.mpr (List.forall_mem_map.mpr fun handle hMem => ?_)
  exact Topology.within_imported (List.mem_cons_of_mem _ (List.mem_map.mpr ⟨handle, hMem, rfl⟩))

theorem sound_clusterResources :
    ∀ resource ∈ clusterResources (bare scope network) settings
        ((bare scope network).imported network.vpc) ((subnets scope network).map Prod.snd),
      resource.Sound ((bare scope network).Draws (imports network) (ids instances)) := by
  have hGroup : groupId ∈ ids instances := mem_ids (by decide)
  have hSecret : secretId ∈ ids instances := mem_ids (by decide)
  have hParameters : parameterGroupId ∈ ids instances := mem_ids (by decide)
  have hKey : keyId ∈ ids instances := mem_ids (by decide)
  simp only [clusterResources, List.forall_mem_cons, List.not_mem_nil, false_imp_iff, implies_true,
    and_true]
  refine ⟨⟨?_, ?_⟩, ⟨?_, ?_⟩, ⟨?_, keys_parameters _ _⟩, ⟨?_, ?_⟩, ⟨?_, ?_⟩, ⟨?_, ?_⟩⟩
  · simp [Spec.values, values_ingressRules, within_vpc]
  · simp [Spec.mapKeys]
  · simp [Spec.values, IngressSource.values, hGroup]
  · simp [Spec.mapKeys]
  · simp [Spec.values]
  · simp [Spec.values]
  · simp [Spec.mapKeys]
  · simp [Spec.values]
  · simp [Spec.mapKeys]
  · simp only [Spec.values, cluster, List.forall_mem_append]
    refine ⟨⟨⟨?_, within_subnets⟩, ?_⟩, ?_⟩ <;> simp [hSecret, hParameters, hGroup, hKey]
  · change ∀ key ∈ ["Name"], key ∉ Property.reservedKeys
    decide

theorem sound_filesystemResources
    (hSubnets : ∀ subnet ∈ network.subnets, subnet.id.text.toList.head? = some 'P') :
    ∀ resource ∈ filesystemResources (bare scope network) settings
        ((bare scope network).imported network.vpc) (subnets scope network),
      resource.Sound ((bare scope network).Draws (imports network) (ids instances)) := by
  have hSecret : secretId ∈ ids instances := mem_ids (by decide)
  have hCluster : clusterId ∈ ids instances := mem_ids (by decide)
  have hGroup : filesystemGroupId ∈ ids instances := mem_ids (by decide)
  simp only [filesystemResources, List.forall_mem_cons, List.not_mem_nil, false_imp_iff,
    implies_true, and_true]
  refine ⟨⟨?_, ?_⟩, ⟨?_, ?_⟩, ⟨?_, ?_⟩, sound_dashboard _ (Topology.within_own hCluster) _⟩
  · rw [Spec.values, List.forall_mem_append]
    exact ⟨by simp [hSecret, hCluster], within_subnets⟩
  · simp [Spec.mapKeys]
  · simp [Spec.values, within_vpc]
  · simp [Spec.mapKeys]
  · refine List.forall_mem_flatMap.mpr (Dict.forall_values_ofList fun entry hEntry => ?_)
    obtain ⟨subnet, hSubnet, rfl⟩ := List.mem_map.mp hEntry
    simp [hGroup, within_subnets _ (List.mem_map.mpr ⟨subnet, hSubnet, rfl⟩)]
  · intro key hKey
    obtain ⟨entry, hEntry, rfl⟩ := List.mem_map.mp (Dict.mem_keys_ofList.mp hKey)
    obtain ⟨subnet, hSubnet, rfl⟩ := List.mem_map.mp hEntry
    obtain ⟨handle, hHandle, rfl⟩ := List.mem_map.mp hSubnet
    exact not_mem_reservedKeys (hSubnets handle (List.mem_of_mem_filter hHandle))

end

/-! ### The tier -/

/-- The resources of the tier. -/
def resources (scope : Scope) (settings : DatabaseSettings) (network : NetworkHandle)
    (instances : List (Nat × ResourceId)) : List Resource :=
  let t := bare scope network
  let vpc := t.imported network.vpc
  clusterResources t settings vpc ((subnets scope network).map Prod.snd) ++
    instances.map (fun (n, id) => instanceResource t settings n id) ++
    filesystemResources t settings vpc (subnets scope network)

/-- The addresses of the machines. -/
def endpoints (scope : Scope) (network : NetworkHandle) (instances : List (Nat × ResourceId)) :
    List Reference :=
  instances.map fun (_, id) => (bare scope network).reference id Attribute.endpointAddress

/-- The names of the machines. -/
def identifiers (settings : DatabaseSettings) : List String :=
  ((List.range settings.replicas).map (· + 1)).map (instanceIdentifier settings)

/-- The tier with all that it declares. -/
def declared (scope : Scope) (settings : DatabaseSettings) (network : NetworkHandle)
    (instances : List (Nat × ResourceId)) : Tier DatabaseHandle :=
  let t := bare scope network
  let endpoints := endpoints scope network instances
  { topology := t.filled (resources scope settings network instances)
      (outputs t settings (identifiers settings) endpoints)
    handle :=
      { cluster := t.reference clusterId Attribute.self
        clusterEndpoint := t.reference clusterId Attribute.endpointAddress
        instanceEndpoints := endpoints
        securityGroup := t.reference groupId Attribute.groupId
        credentials := ⟨secretName settings, t.reference secretId Attribute.self⟩
        filesystem :=
          ⟨t.reference filesystemId Attribute.self,
            t.reference filesystemGroupId Attribute.groupId, FilesystemHandle.nfsPort⟩
        engine := settings.engine } }

def outputIds : List String :=
  ["OutputSecretName", "OutputSecretArn", "OutputGetSecretValue", "OutputInstanceIdentifiers",
    "OutputEndpoints", "OutputClusterEndpoint", "OutputEngineFamily", "OutputEngineType",
    "OutputEngineFullVersion", "OutputEngineMajorVersion", "OutputParameterGroupFamily"]

/-- What the names of exports end in. -/
def exportSuffixes : List String :=
  ["SecretName", "SecretArn", "GetSecretValue", "InstanceIdentifiers", "Endpoints", "Endpoint",
    "EngineFamily", "EngineType", "EngineFullVersion", "EngineMajorVersion",
    "ParameterGroupFamily"]

/-- The export names of the tier. -/
def exportNames (scope : Scope) : List String :=
  exportSuffixes.map fun suffix => scope.topologyName "Data" ++ ":" ++ suffix

/-- What later tiers may rely on. -/
structure Created (scope : Scope) (network : NetworkHandle) (tier : Tier DatabaseHandle) :
    Prop where
  name : tier.topology.name = scope.topologyName "Data"
  region : tier.topology.region = scope.region
  crossRegion : tier.topology.crossRegion = false
  declares : tier.topology.Declares (imports network)
  /-- The check of the topology comes across the network first. -/
  first : tier.topology.references.head? = some (tier.topology.localized network.vpc)
  exportNames : tier.topology.exportNames = exportNames scope
  securityGroup : tier.topology.Offers tier.handle.securityGroup
  secret : tier.topology.Offers tier.handle.credentials.secret
  fileSystem : tier.topology.Offers tier.handle.filesystem.fileSystem
  filesystemGroup : tier.topology.Offers tier.handle.filesystem.securityGroup

theorem count_exportNames {scope : Scope} (h : IsAlnum scope.name) :
    ∀ name ∈ exportNames scope, name.toList.count ':' ≤ 1 := by
  intro name hMem
  obtain ⟨suffix, hSuffix, rfl⟩ := List.mem_map.mp hMem
  have hSuffixes : ∀ suffix ∈ exportSuffixes, IsAlnum suffix := by decide
  have hNone : ∀ {text : String}, IsAlnum text → text.toList.count ':' = 0 := fun hText =>
    List.count_eq_zero.mpr (hText.not_mem (by decide))
  have hName : IsAlnum (scope.topologyName "Data") := h.append (by decide)
  rw [String.toList_append, String.toList_append, List.count_append, List.count_append,
    hNone hName, hNone (hSuffixes suffix hSuffix)]
  decide

section

variable {scope : Scope} {settings : DatabaseSettings} {network : NetworkHandle}
  {instances : List (Nat × ResourceId)}

theorem ids_resources :
    (resources scope settings network instances).map Resource.id = ids instances := by
  rw [resources, List.map_append, List.map_append, List.map_map]
  rfl

theorem sound_resources
    (hSubnets : ∀ subnet ∈ network.subnets, subnet.id.text.toList.head? = some 'P') :
    ∀ resource ∈ resources scope settings network instances,
      resource.Sound ((bare scope network).Draws (imports network) (ids instances)) := by
  refine List.forall_mem_append.mpr ⟨List.forall_mem_append.mpr ⟨sound_clusterResources, ?_⟩,
    sound_filesystemResources hSubnets⟩
  have hCluster : clusterId ∈ ids instances := mem_ids (by decide)
  refine List.forall_mem_map.mpr fun machine _ => ⟨?_, ?_⟩
  · simp [instanceResource, Spec.values, hCluster]
  · simp [instanceResource, Spec.mapKeys]

theorem within_outputs : ∀ output ∈ outputs (bare scope network) settings (identifiers settings)
      (endpoints scope network instances),
    output.value.Within ((bare scope network).Draws (imports network) (ids instances)) := by
  have hSecret : secretId ∈ ids instances := mem_ids (by decide)
  have hCluster : clusterId ∈ ids instances := mem_ids (by decide)
  have hEndpoints : ∀ r ∈ endpoints scope network instances,
      (bare scope network).Draws (imports network) (ids instances) r := by
    refine List.forall_mem_map.mpr fun machine hMem => Topology.draws_reference _ ?_
    exact List.mem_append_left _ (List.mem_append_right _ (List.mem_map.mpr ⟨machine, hMem, rfl⟩))
  simp only [outputs, List.map_cons, List.map_nil, Output.exportedAs, List.forall_mem_cons]
  simpa [hSecret, hCluster] using hEndpoints

/-- The first resource is the firewall, and the network is all that it refers to. -/
theorem head?_references (outputs : List Output) :
    ((bare scope network).filled (resources scope settings network instances)
      outputs).references.head? = some ((bare scope network).localized network.vpc) := by
  have hScan : Value.scan (Spec.securityGroup
      { name := some ((bare scope network).name ++ "Database")
        description := (bare scope network).name ++ "Database"
        vpc := (bare scope network).imported network.vpc
        ingress := ingressRules settings.engine.profile settings.ingress
        egress := [allowAllOut] }).toJson = [(bare scope network).localized network.vpc] := by
    refine List.perm_singleton.mp ((Spec.scan_toJson_perm _).trans (List.Perm.of_eq ?_))
    rw [Spec.values, values_ingressRules]
    rfl
  rw [Topology.references, Topology.filled, resources, clusterResources, List.cons_append,
    List.cons_append, List.flatMap_cons, hScan]
  rfl

theorem exportNames_outputs : (outputs (bare scope network) settings (identifiers settings)
      (endpoints scope network instances)).filterMap Output.exportName = exportNames scope := by
  have hName : (bare scope network).name = scope.topologyName "Data" :=
    Topology.dependOnAll_name _ _
  rw [exportNames, ← hName]
  rfl

theorem created_declared (hInstances : AreInstances settings.replicas instances)
    (hSubnets : ∀ subnet ∈ network.subnets, subnet.id.text.toList.head? = some 'P') :
    Created scope network (declared scope settings network instances) where
  name := Topology.dependOnAll_name _ _
  region := Topology.dependOnAll_region _ _
  crossRegion := Topology.dependOnAll_crossRegion _ _
  first := head?_references _
  declares := by
    refine Topology.declares_filled (ids instances) outputIds ids_resources rfl
      ⟨nodup_ids hInstances, by decide⟩ ⟨?_, by decide⟩ (sound_resources hSubnets) within_outputs ?_
    · refine forall_between (fun id hMem => Topology.not_isPrefix_of_head? ?_) (by decide)
      obtain ⟨rest, hText⟩ := hInstances.stem id hMem
      rw [← hText]
      simp
    · intro name
      rw [bare, Topology.mem_dependencies_dependOnAll]
      simp [Topology.new]
  exportNames := exportNames_outputs
  securityGroup := Topology.offers_reference (ids_resources ▸ mem_ids (by decide)) (by decide)
  secret := Topology.offers_reference (ids_resources ▸ mem_ids (by decide)) (by decide)
  fileSystem := Topology.offers_reference (ids_resources ▸ mem_ids (by decide)) (by decide)
  filesystemGroup := Topology.offers_reference (ids_resources ▸ mem_ids (by decide)) (by decide)

/-- Nothing is imported in vain: the firewall is in the network, the cluster in the subnets. -/
theorem usesAll_declared :
    (declared scope settings network instances).topology.UsesAll (imports network) := by
  have hUsed : ∀ {resource : Resource} {i : Reference},
      resource ∈ clusterResources (bare scope network) settings
          ((bare scope network).imported network.vpc) ((subnets scope network).map Prod.snd) →
        (bare scope network).imported i ∈ resource.spec.values →
          (bare scope network).localized i ∈
            (declared scope settings network instances).topology.embedded := by
    intro resource i hMem hValue
    refine Topology.mem_embedded_of_resource ?_ hValue (by simp)
    exact List.mem_append_left _ (List.mem_append_left _ hMem)
  refine List.forall_mem_cons.mpr ⟨hUsed List.mem_cons_self List.mem_cons_self, ?_⟩
  refine List.forall_mem_map.mpr fun subnet hPrivate => ?_
  have hSubnet : (bare scope network).imported subnet.subnet ∈
      (subnets scope network).map Prod.snd := by
    rw [subnets, List.map_map]
    exact List.mem_map.mpr ⟨subnet, hPrivate, rfl⟩
  refine hUsed (List.mem_of_getElem? (i := 5) rfl) ?_
  simp [Spec.values, cluster, hSubnet]

end

theorem create_eq_declared {scope : Scope} {settings : DatabaseSettings} {network : NetworkHandle}
    (hReplicas : settings.replicas ≤ Bounds.nat32) :
    ∃ instances, create scope settings network = .ok (declared scope settings network instances) ∧
      AreInstances settings.replicas instances := by
  obtain ⟨instances, hInstances, hAre⟩ := instances_eq_ok hReplicas
  refine ⟨instances, ?_, hAre⟩
  have hIds : ((resources scope settings network instances).map Resource.id).Nodup := by
    rw [ids_resources]
    exact nodup_ids hAre
  have hDeclare : (bare scope network).declare (resources scope settings network instances) =
      .ok ((bare scope network).filled (resources scope settings network instances) []) :=
    Topology.declare_of_bare (Topology.dependOnAll_resources _ _)
      (Topology.dependOnAll_outputs _ _) hIds
  have hTell : ((outputs (bare scope network) settings (identifiers settings)
      (endpoints scope network instances)).map Output.id).Nodup := by
    change outputIds.Nodup
    decide
  unfold create
  exact bind_eq_ok_iff.mpr ⟨instances, hInstances, bind_eq_ok_iff.mpr ⟨_, hDeclare,
    bind_eq_ok_iff.mpr ⟨_, Topology.tell_filled _ _ hTell, rfl⟩⟩⟩

theorem create_eq_ok {scope : Scope} {settings : DatabaseSettings} {network : NetworkHandle}
    (hReplicas : settings.replicas ≤ Bounds.nat32)
    (hSubnets : ∀ subnet ∈ network.subnets, subnet.id.text.toList.head? = some 'P') :
    ∃ tier, create scope settings network = .ok tier ∧ Created scope network tier := by
  obtain ⟨instances, hCreate, hAre⟩ := create_eq_declared hReplicas
  exact ⟨_, hCreate, created_declared hAre hSubnets⟩

end Blueprint.Data
