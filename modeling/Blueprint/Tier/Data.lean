import Blueprint.Tier
import Blueprint.Tier.Dashboard

/-!
The data tier: the database cluster with its machines and credentials, the shared file system and
the dashboard. What differs between engines comes from the engine's profile.
-/

namespace Blueprint.Data

/-- Characters that no generated password contains. -/
def excludedCharacters : String := "\"@/\\ '"

/-- A rule that lets everything out. -/
def allowAllOut : EgressRule := ⟨.anyIpv4, .allTraffic, "all out"⟩

/-- The rules that let one source in: one for the port of the engine, then its further ports. -/
def sourceRules (engine : EngineProfile) (source : Peer) : List IngressRule :=
  ⟨.peer source, .tcp engine.port, engine.label⟩ ::
    engine.auxiliaryPorts.map fun port => ⟨.peer source, .tcp port.port, port.label⟩

/-- The rules that let the configured sources in. -/
def ingressRules (engine : EngineProfile) (sources : List Peer) : List IngressRule :=
  sources.flatMap (sourceRules engine)

/-- The class of a database machine, whose type may be written with or without the service. -/
def instanceClass (instanceType : String) : String :=
  if Text.startsWith "db." instanceType then instanceType else "db." ++ instanceType

/-- The parameters of the cluster. -/
def parameters (engine : EngineProfile) (babelfish : Bool) : Dict String :=
  match babelfish, engine.babelfish with
  | true, some (key, value) => Dict.empty.insert key value
  | _, _ => Dict.empty

/-- The identifier of the machine with a number. -/
def instanceIdentifier (settings : DatabaseSettings) (n : Nat) : String :=
  settings.name ++ toString n

def secretName (settings : DatabaseSettings) : String :=
  settings.name ++ "-AuroraClusterCredentials"

def secretTemplate (settings : DatabaseSettings) : String :=
  "\x7b\"username\": \"" ++ settings.username ++ "\"\x7d"

/-! ### Identifiers -/

def groupId : ResourceId := .lit "SecurityGroupDB"
def selfIngressId : ResourceId := .lit "SecurityGroupDBSelfIngress"
def parameterGroupId : ResourceId := .lit "AuroraParameterGroup"
def secretId : ResourceId := .lit "SecretAuroraCredentials"
def keyId : ResourceId := .lit "KmsKey"
def clusterId : ResourceId := .lit "AuroraCluster"
def rotationId : ResourceId := .lit "AuroraClusterRotationSingleUser"
def filesystemGroupId : ResourceId := .lit "EfsSecurityGroup"
def filesystemId : ResourceId := .lit "Efs"
def dashboardId : ResourceId := .lit "CloudwatchDashboard"

/-- The identifier of the resource for the machine with a number. -/
def instanceId (n : Nat) : Except ModelError ResourceId :=
  ResourceId.ofString ("AuroraClusterInstance" ++ toString n)

/-! ### Resources -/

/-- The declaration of the cluster. -/
def cluster (t : Topology) (settings : DatabaseSettings) (subnets : List Value) :
    DatabaseCluster :=
  let engine := settings.engine.profile
  { engine := engine.kind
    engineVersion := engine.fullVersion
    port := engine.port
    masterSecret := t.own secretId Attribute.self
    masterUsername := settings.username
    parameterGroup := t.own parameterGroupId Attribute.self
    subnets
    securityGroups := [t.own groupId Attribute.groupId]
    backupRetentionDays := settings.retentionDays
    backupWindow := settings.backupWindow
    maintenanceWindow := settings.maintenanceWindow
    iamAuthentication := true
    encrypted := true
    key := t.own keyId Attribute.arn
    deletionProtection := false
    snapshotOnDelete := true
    copyTagsToSnapshot := true
    logExports := engine.logExports
    logRetentionDays := 30
    tags := Dict.empty.insert "Name" settings.name }

/-- The resources before the machines of the cluster. -/
def clusterResources (t : Topology) (settings : DatabaseSettings) (vpc : Value)
    (subnets : List Value) : List Resource :=
  let engine := settings.engine.profile
  let group := t.own groupId Attribute.groupId
  [{ id := groupId
     spec := .securityGroup
      { name := some (t.name ++ "Database")
        description := t.name ++ "Database"
        vpc
        ingress := ingressRules engine settings.ingress
        egress := [allowAllOut] } },
    { id := selfIngressId
      spec := .securityGroupIngress ⟨group, .group group, .allTraffic, "all from self"⟩ },
    { id := parameterGroupId
      spec := .parameterGroup
        { family := engine.parameterFamily
          description := t.name ++ " Parameter Group"
          parameters := parameters engine settings.babelfish } },
    { id := secretId
      spec := .secret
        { name := secretName settings
          description := "Credentials for the " ++ settings.name ++ " Aurora database cluster"
          generated := some ⟨secretTemplate settings, "password", excludedCharacters, 30⟩
          given := none } },
    { id := keyId
      spec := .encryptionKey
        ⟨settings.name, "Storage encryption key for " ++ settings.name, true⟩ },
    { id := clusterId
      spec := .databaseCluster (cluster t settings subnets)
      retained := true }]

/-- The machine of the cluster with a number. -/
def instanceResource (t : Topology) (settings : DatabaseSettings) (n : Nat) (id : ResourceId) :
    Resource :=
  { id
    spec := .databaseInstance
      { cluster := t.own clusterId Attribute.self
        identifier := instanceIdentifier settings n
        instanceClass := instanceClass settings.instanceType
        engine := settings.engine.profile.kind
        publiclyAccessible := false } }

/-- The resources after the machines of the cluster. -/
def filesystemResources (t : Topology) (settings : DatabaseSettings) (vpc : Value)
    (subnets : List (ResourceId × Value)) : List Resource :=
  let group := t.own filesystemGroupId Attribute.groupId
  [{ id := rotationId
     spec := .rotationSchedule
      { secret := t.own secretId Attribute.self
        target := t.own clusterId Attribute.self
        afterDays := 30
        strategy := "single-user"
        excludedCharacters
        subnets := subnets.map Prod.snd } },
    { id := filesystemGroupId
      spec := .securityGroup
        { name := none
          description := t.name ++ " shared filesystem"
          vpc
          ingress := []
          egress := [allowAllOut] } },
    { id := filesystemId
      spec := .fileSystem
        { encrypted := true
          mountTargets := .ofList (subnets.map fun (id, subnet) => (id.text, ⟨subnet, group⟩)) } },
    { id := dashboardId
      spec := .dashboard (.ofCluster settings.name (t.own clusterId Attribute.self)) }]

/-- What the tier tells about itself. -/
def outputs (t : Topology) (settings : DatabaseSettings) (identifiers : List String)
    (endpoints : List Reference) : List Output :=
  let engine := settings.engine.profile
  let secret := t.own secretId Attribute.self
  [("OutputSecretName", "SecretName", .literal (secretName settings)),
    ("OutputSecretArn", "SecretArn", secret),
    ("OutputGetSecretValue", "GetSecretValue",
      .concat [.literal "aws secretsmanager get-secret-value --secret-id ", secret]),
    ("OutputInstanceIdentifiers", "InstanceIdentifiers",
      .literal (String.intercalate "," identifiers)),
    ("OutputEndpoints", "Endpoints", .join "," (endpoints.map .ref)),
    ("OutputClusterEndpoint", "Endpoint",
      .join ":" [t.own clusterId Attribute.endpointAddress,
        t.own clusterId Attribute.endpointPort]),
    ("OutputEngineFamily", "EngineFamily", .literal engine.family),
    ("OutputEngineType", "EngineType", .literal engine.kind),
    ("OutputEngineFullVersion", "EngineFullVersion", .literal engine.fullVersion),
    ("OutputEngineMajorVersion", "EngineMajorVersion", .literal engine.majorVersion),
    ("OutputParameterGroupFamily", "ParameterGroupFamily", .literal engine.parameterFamily)].map
    fun (id, suffix, value) => .exportedAs id (t.name ++ ":" ++ suffix) value

/-- Declare the data tier. -/
def create (scope : Scope) (settings : DatabaseSettings) (network : NetworkHandle) :
    Except ModelError (Tier DatabaseHandle) := do
  let privateSubnets := network.privateSubnets
  let t := (Topology.new (scope.topologyName "Data") scope.region).dependOnAll
    (network.vpc :: privateSubnets.map SubnetHandle.subnet)
  let vpc := t.imported network.vpc
  let subnets := privateSubnets.map fun subnet => (subnet.id, t.imported subnet.subnet)
  let numbers := (List.range settings.replicas).map (· + 1)
  let instances ← numbers.mapM fun n => do return (n, ← instanceId n)
  let endpoints := instances.map fun (_, id) => t.reference id Attribute.endpointAddress
  let topology ← t.declare
    (clusterResources t settings vpc (subnets.map Prod.snd) ++
      instances.map (fun (n, id) => instanceResource t settings n id) ++
      filesystemResources t settings vpc subnets)
  let topology ← topology.tell
    (outputs t settings (numbers.map (instanceIdentifier settings)) endpoints)
  return {
    topology
    handle := {
      cluster := t.reference clusterId Attribute.self
      clusterEndpoint := t.reference clusterId Attribute.endpointAddress
      instanceEndpoints := endpoints
      securityGroup := t.reference groupId Attribute.groupId
      credentials := ⟨secretName settings, t.reference secretId Attribute.self⟩
      filesystem :=
        ⟨t.reference filesystemId Attribute.self,
          t.reference filesystemGroupId Attribute.groupId, FilesystemHandle.nfsPort⟩
      engine := settings.engine } }

end Blueprint.Data
