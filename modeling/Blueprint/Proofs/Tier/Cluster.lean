import Blueprint.Proofs.Network.Address
import Blueprint.Proofs.Tier.Kinds

/-! The database cluster of the data tier. Its firewall lets the configured sources in, each of them
on each port of the engine, and nobody on any other port. Its machines are numbered from one on, and
what the tier tells and hands on about them keeps their order. -/

namespace Blueprint

/-- The ports on which clients may reach an engine, each with the description of rules for it. The
port for connections stands first. -/
def EngineProfile.openPorts (engine : EngineProfile) : List (Nat × String) :=
  (engine.port, engine.label) ::
    engine.auxiliaryPorts.map fun further => (further.port, further.label)

theorem PortRange.covers_tcp_iff {port other : Nat} :
    (PortRange.tcp port).covers other = true ↔ other = port := by
  rw [covers, Bool.and_eq_true, decide_eq_true_eq, decide_eq_true_eq]
  exact ⟨fun ⟨hFirst, hLast⟩ => Nat.le_antisymm hLast hFirst, fun hSame => ⟨hSame.ge, hSame.le⟩⟩

namespace Engine

theorem nodup_openPorts (engine : Engine) : (engine.profile.openPorts.map Prod.fst).Nodup := by
  cases engine <;> decide

theorem mem_openPorts_iff (engine : Engine) {port : Nat} :
    port ∈ engine.profile.openPorts.map Prod.fst ↔
      port = engine.profile.port ∨ engine = .postgresql ∧ port = 1433 := by
  cases engine <;> simp [EngineProfile.openPorts, profile]

end Engine

/-- A firewall that lets exactly some sources in, on exactly the ports of an engine. -/
structure SecurityGroup.Admits (group : SecurityGroup) (engine : Engine) (sources : List Peer) :
    Prop where
  /-- On a port of the engine all sources come in, in their order and as often as they are given;
  on any other port nobody does. -/
  onPort : ∀ port, (group.ingressOn port).map IngressRule.source =
    if port = engine.profile.port ∨ engine = .postgresql ∧ port = 1433 then sources.map .peer
    else []
  /-- A rule is for one port, and it is described as that port is. -/
  single : ∀ rule ∈ group.ingress, ∃ opened ∈ engine.profile.openPorts,
    rule.ports.protocol = .tcp ∧ (∀ port, rule.ports.covers port = true ↔ port = opened.1) ∧
      rule.description = opened.2
  count : group.ingress.length = sources.length * engine.profile.openPorts.length
  /-- The rules of a source follow one another, the one for connections first, and the sources
  follow one another as they are given. -/
  placed : ∀ i source j opened, sources[i]? = some source →
    engine.profile.openPorts[j]? = some opened →
      group.ingress[i * engine.profile.openPorts.length + j]? =
        some ⟨.peer source, .tcp opened.1, opened.2⟩

/-- Where each element of a list brings equally many others, these stand in blocks. -/
theorem getElem?_flatMap_of_length {α β : Type} {f : α → List β} {size : Nat}
    (hSize : ∀ a, (f a).length = size) {items : List α} {i j : Nat} {a : α}
    (hItem : items[i]? = some a) (hj : j < size) :
    (items.flatMap f)[i * size + j]? = (f a)[j]? := by
  induction items generalizing i with
  | nil => cases hItem
  | cons first rest ih =>
      rw [List.flatMap_cons]
      cases i with
      | zero =>
          cases hItem
          rw [Nat.zero_mul, Nat.zero_add, List.getElem?_append_left (by rwa [hSize])]
      | succ i =>
          have hPast : (i + 1) * size + j = (f first).length + (i * size + j) := by
            rw [hSize, Nat.succ_mul]
            omega
          rw [hPast, List.getElem?_append_right (Nat.le_add_right _ _), Nat.add_sub_cancel_left]
          exact ih hItem

namespace Data

/-! ### The firewall -/

/-- The rule that lets a source in on a port. -/
def sourceRule (source : Peer) (opened : Nat × String) : IngressRule :=
  ⟨.peer source, .tcp opened.1, opened.2⟩

theorem sourceRules_eq (engine : EngineProfile) (source : Peer) :
    sourceRules engine source = engine.openPorts.map (sourceRule source) := by
  rw [sourceRules, EngineProfile.openPorts, List.map_cons, List.map_map]
  rfl

/-- Of the rules for different ports at most one is for a given port. -/
theorem sources_sourceRule {source : Peer} {port : Nat} {ports : List (Nat × String)}
    (hNodup : (ports.map Prod.fst).Nodup) :
    ((ports.map (sourceRule source)).filter fun rule => rule.ports.covers port).map
        IngressRule.source =
      if port ∈ ports.map Prod.fst then [.peer source] else [] := by
  induction ports with
  | nil => rfl
  | cons first rest ih =>
      obtain ⟨hFirst, hRest⟩ := List.nodup_cons.mp hNodup
      have hCovers : (sourceRule source first).ports.covers port = true ↔ port = first.1 :=
        PortRange.covers_tcp_iff
      rw [List.map_cons, List.filter_cons]
      by_cases hPort : port = first.1
      · rw [if_pos (hCovers.mpr hPort), List.map_cons, ih hRest, if_neg (hPort ▸ hFirst),
          List.map_cons, if_pos (hPort ▸ List.mem_cons_self)]
        rfl
      · rw [if_neg (mt hCovers.mp hPort), ih hRest]
        simp only [List.map_cons, List.mem_cons, or_iff_right hPort]

theorem sources_ingressRules (engine : Engine) (sources : List Peer) (port : Nat) :
    ((ingressRules engine.profile sources).filter fun rule => rule.ports.covers port).map
        IngressRule.source =
      if port = engine.profile.port ∨ engine = .postgresql ∧ port = 1433 then
        sources.map .peer
      else [] := by
  simp only [← engine.mem_openPorts_iff]
  induction sources with
  | nil => simp [ingressRules]
  | cons source rest ih =>
      rw [ingressRules, List.flatMap_cons, List.filter_append, List.map_append, ← ingressRules, ih,
        sourceRules_eq, sources_sourceRule engine.nodup_openPorts]
      split <;> rfl

/-- The rules made from the sources let in whom they should. -/
theorem admits_ingressRules {group : SecurityGroup} {engine : Engine} {sources : List Peer}
    (hRules : group.ingress = ingressRules engine.profile sources) :
    group.Admits engine sources where
  onPort port := by
    rw [SecurityGroup.ingressOn, hRules]
    exact sources_ingressRules engine sources port
  single := by
    rw [hRules]
    intro rule hMem
    obtain ⟨source, -, hRule⟩ := List.mem_flatMap.mp hMem
    rw [sourceRules_eq] at hRule
    obtain ⟨opened, hOpened, rfl⟩ := List.mem_map.mp hRule
    exact ⟨opened, hOpened, rfl, fun port => PortRange.covers_tcp_iff, rfl⟩
  count := by
    rw [hRules, ingressRules, List.length_flatMap]
    simp [sourceRules_eq]
  placed := by
    intro i source j opened hSource hOpened
    have hSize : ∀ source, (sourceRules engine.profile source).length =
        engine.profile.openPorts.length := by simp [sourceRules_eq]
    rw [hRules, ingressRules, getElem?_flatMap_of_length hSize hSource
      (List.getElem?_eq_some_iff.mp hOpened).1, sourceRules_eq, List.getElem?_map, hOpened]
    rfl

/-- The data tier can be declared, and the firewall of its cluster lets the configured sources in on
the ports of the engine: nobody else, and nowhere else. -/
theorem firewall_of_create (scope : Scope) (settings : DatabaseSettings) (network : NetworkHandle)
    (hReplicas : settings.replicas ≤ Bounds.nat32) :
    ∃ tier group, create scope settings network = .ok tier ∧
      tier.topology.resource? "SecurityGroupDB" =
        some { id := groupId, spec := .securityGroup group } ∧
      group.Admits settings.engine settings.ingress := by
  obtain ⟨instances, hCreate, -⟩ := create_eq_declared hReplicas
  exact ⟨_, _, hCreate, rfl, admits_ingressRules rfl⟩

/-- A network in one region, with a subnet that cannot be reached from outside. -/
def quietNetwork : NetworkHandle :=
  let base := Topology.new "AcmeBase" ⟨"eu-west-1"⟩
  { vpc := base.reference Base.vpcId Attribute.self
    subnets :=
      [{ id := .lit "PrivateSubnet1"
         subnetType := .private
         subnet := base.reference (.lit "VpcPrivateSubnet1") Attribute.self }]
    repositoryUri := base.reference Base.repositoryId Attribute.repositoryUri
    zone := ⟨base.reference Base.zoneId Attribute.self, "example.com"⟩ }

/-- A database of three machines, open to two sources, one of which is named twice. -/
def busyDatabase : DatabaseSettings :=
  { engine := .postgresql, name := "acme-db", username := "dbadmin", instanceType := "t4g.medium"
    replicas := 3, backupWindow := none, retentionDays := 14, maintenanceWindow := none
    ingress := [.securityGroup "sg-0abc", .ipv4 "10.0.0.0/16", .securityGroup "sg-0abc"]
    babelfish := true }

theorem firewall_of_create_busyDatabase : busyDatabase.replicas ≤ Bounds.nat32 ∧
    ∃ tier group, create ⟨"Acme", ⟨"eu-west-1"⟩⟩ busyDatabase quietNetwork = .ok tier ∧
      tier.topology.resource? "SecurityGroupDB" =
        some { id := groupId, spec := .securityGroup group } ∧
      (group.ingressOn 1433).map IngressRule.source =
        [.peer (.securityGroup "sg-0abc"), .peer (.ipv4 "10.0.0.0/16"),
          .peer (.securityGroup "sg-0abc")] ∧
      (group.ingressOn 3306).map IngressRule.source = [] ∧
      group.ingress[5]? = some ⟨.peer (.securityGroup "sg-0abc"), .tcp 1433, "tcp1433"⟩ := by
  have hReplicas : busyDatabase.replicas ≤ Bounds.nat32 := by decide
  obtain ⟨tier, group, hCreate, hGroup, hAdmits⟩ :=
    firewall_of_create ⟨"Acme", ⟨"eu-west-1"⟩⟩ busyDatabase quietNetwork hReplicas
  exact ⟨hReplicas, tier, group, hCreate, hGroup, hAdmits.onPort 1433, hAdmits.onPort 3306,
    hAdmits.placed 2 _ 1 _ rfl rfl⟩

/-! ### The machines -/

/-- The machines of the cluster, with the identifiers of their resources. -/
def machines (t : Topology) : List (ResourceId × DatabaseInstance) :=
  Resource.allOf Spec.databaseInstance? t.resources

/-- The cluster has as many machines as the settings ask for, and what the tier hands on and tells
about them is in step with them. -/
structure HasMachines (settings : DatabaseSettings) (tier : Tier DatabaseHandle) : Prop where
  /-- The identifiers of the resources and of the machines, in the order of their numbers. -/
  numbered : (machines tier.topology).map (fun machine => (machine.1.text, machine.2.identifier)) =
    (List.range settings.replicas).map fun i =>
      ("AuroraClusterInstance" ++ toString (i + 1), settings.name ++ toString (i + 1))
  distinct : ((machines tier.topology).map fun machine => machine.2.identifier).Nodup
  /-- All of them are in the declared cluster. -/
  clustered : ∃ cluster, tier.topology.resource? "AuroraCluster" =
      some { id := clusterId, spec := .databaseCluster cluster, retained := true } ∧
    ∀ machine ∈ machines tier.topology,
      machine.2.cluster = .ref (tier.topology.reference clusterId Attribute.self)
  endpoints : tier.handle.instanceEndpoints = (machines tier.topology).map fun machine =>
    tier.topology.reference machine.1 Attribute.endpointAddress
  endpointsTold : (tier.topology.output? "OutputEndpoints").map Output.value =
    some (.join "," (tier.handle.instanceEndpoints.map .ref))
  identifiersTold : (tier.topology.output? "OutputInstanceIdentifiers").map Output.value =
    some (.literal (String.intercalate ","
      ((machines tier.topology).map fun machine => machine.2.identifier)))
  /-- The told identifiers can be told apart again. -/
  identifiersRead : 0 < settings.replicas → ',' ∉ settings.name.toList →
    Text.split ',' (String.intercalate ","
        ((machines tier.topology).map fun machine => machine.2.identifier)) =
      (machines tier.topology).map fun machine => machine.2.identifier

section

variable {scope : Scope} {settings : DatabaseSettings} {network : NetworkHandle}
  {instances : List (Nat × ResourceId)}

theorem machines_declared :
    machines (declared scope settings network instances).topology = instances.map fun machine =>
      (machine.2,
        { cluster := (bare scope network).own clusterId Attribute.self
          identifier := instanceIdentifier settings machine.1
          instanceClass := instanceClass settings.instanceType
          engine := settings.engine.profile.kind
          publiclyAccessible := false }) := by
  have hBefore : Resource.allOf Spec.databaseInstance? (clusterResources (bare scope network)
      settings ((bare scope network).imported network.vpc)
        ((subnets scope network).map Prod.snd)) = [] := rfl
  have hAfter : Resource.allOf Spec.databaseInstance? (filesystemResources (bare scope network)
      settings ((bare scope network).imported network.vpc) (subnets scope network)) = [] := rfl
  rw [machines, declared, Topology.filled, resources, Resource.allOf_append, Resource.allOf_append,
    hBefore, hAfter, List.nil_append, List.append_nil, Resource.allOf, List.filterMap_map]
  exact congrFun List.filterMap_eq_map instances

theorem identifiers_declared (hAre : AreInstances settings.replicas instances) :
    (machines (declared scope settings network instances).topology).map
        (fun machine => machine.2.identifier) = identifiers settings := by
  rw [machines_declared, identifiers, ← hAre.numbers, List.map_map, List.map_map]
  rfl

theorem nodup_identifiers (settings : DatabaseSettings) : (identifiers settings).Nodup :=
  (List.nodup_range.map fun _ _ hSame => Nat.succ.inj hSame).map (numbered_injective settings.name)

/-- A number has no comma, so it is the name that decides. -/
theorem comma_not_mem_identifiers (hName : ',' ∉ settings.name.toList) :
    ∀ identifier ∈ identifiers settings, ',' ∉ identifier.toList := by
  refine List.forall_mem_map.mpr fun n _ hComma => ?_
  rw [instanceIdentifier, String.toList_append, List.mem_append] at hComma
  exact absurd (Address.isDigit_of_mem_toString (hComma.resolve_left hName)) (by decide)

theorem split_identifiers (hReplicas : 0 < settings.replicas)
    (hName : ',' ∉ settings.name.toList) :
    Text.split ',' (String.intercalate "," (identifiers settings)) = identifiers settings := by
  refine Text.split_intercalate ?_ (comma_not_mem_identifiers hName)
  rw [identifiers, Ne, List.map_eq_nil_iff, List.map_eq_nil_iff, List.range_eq_nil]
  exact hReplicas.ne'

theorem hasMachines_declared (hAre : AreInstances settings.replicas instances) :
    HasMachines settings (declared scope settings network instances) where
  numbered := by
    have hPairs : instances.map (fun machine =>
        (machine.2.text, instanceIdentifier settings machine.1)) =
          (instances.map Prod.fst).map fun n =>
            ("AuroraClusterInstance" ++ toString n, instanceIdentifier settings n) := by
      rw [List.map_map]
      exact List.map_congr_left fun machine hMem => Prod.ext (hAre.texts machine hMem) rfl
    rw [machines_declared, List.map_map]
    refine hPairs.trans ?_
    rw [hAre.numbers, List.map_map]
    rfl
  distinct := by
    rw [identifiers_declared hAre]
    exact nodup_identifiers settings
  clustered := by
    refine ⟨_, rfl, ?_⟩
    rw [machines_declared]
    exact List.forall_mem_map.mpr fun machine _ => rfl
  endpoints := by
    rw [machines_declared, List.map_map]
    rfl
  endpointsTold := rfl
  identifiersTold := by
    rw [identifiers_declared hAre]
    rfl
  identifiersRead hReplicas hName := by
    rw [identifiers_declared hAre]
    exact split_identifiers hReplicas hName

end

/-- The data tier can be declared for every number of machines, and it has exactly that many. -/
theorem machines_of_create (scope : Scope) (settings : DatabaseSettings) (network : NetworkHandle)
    (hReplicas : settings.replicas ≤ Bounds.nat32) :
    ∃ tier, create scope settings network = .ok tier ∧ HasMachines settings tier := by
  obtain ⟨instances, hCreate, hAre⟩ := create_eq_declared hReplicas
  exact ⟨_, hCreate, hasMachines_declared hAre⟩

theorem machines_of_create_busyDatabase : busyDatabase.replicas ≤ Bounds.nat32 ∧
    ∃ tier, create ⟨"Acme", ⟨"eu-west-1"⟩⟩ busyDatabase quietNetwork = .ok tier ∧
      (machines tier.topology).map (fun machine => (machine.1.text, machine.2.identifier)) =
        [("AuroraClusterInstance1", "acme-db1"), ("AuroraClusterInstance2", "acme-db2"),
          ("AuroraClusterInstance3", "acme-db3")] ∧
      Text.split ',' (String.intercalate ","
          ((machines tier.topology).map fun machine => machine.2.identifier)) =
        (machines tier.topology).map fun machine => machine.2.identifier := by
  have hReplicas : busyDatabase.replicas ≤ Bounds.nat32 := by decide
  obtain ⟨tier, hCreate, hMachines⟩ :=
    machines_of_create ⟨"Acme", ⟨"eu-west-1"⟩⟩ busyDatabase quietNetwork hReplicas
  exact ⟨hReplicas, tier, hCreate, hMachines.numbered.trans (by decide +kernel),
    hMachines.identifiersRead (by decide) (by decide +kernel)⟩

end Data

end Blueprint
