import Blueprint.Resource
import Blueprint.Settings

/-!
The properties of a declaration as one tree. Inner nodes are lists and records, leaves are plain
data or values. Everything that treats the kinds of resource alike is defined on this tree: the JSON
form of a declaration, and the references that it embeds.
-/

namespace Blueprint

/-- A tree of properties. -/
inductive Property where
  | data (json : Json)
  | value (value : Value)
  | list (items : List Property)
  | record (fields : List (String × Property))

namespace Property

def text (s : String) : Property := .data (.str s)

def texts (items : List String) : Property := .list (items.map text)

/-- A text, or null for none. -/
def text? : Option String → Property
  | none => .data .null
  | some s => text s

/-- A truth value. -/
def bool (b : Bool) : Property := .data (.bool b)

/-- A number. -/
def nat (n : Nat) : Property := .data (.nat n)

def values (items : List Value) : Property := .list (items.map .value)

/-- A map, with one field for each of its entries. -/
def dict {α : Type} (d : Dict α) (property : α → Property) : Property :=
  .record (d.entries.map fun entry => (entry.1, property entry.2))

/-- A field that is left out when it has no content. -/
def field? {α : Type} (key : String) (property : α → Property) :
    Option α → List (String × Property)
  | none => []
  | some content => [(key, property content)]

mutual

/-- The JSON form of a tree. -/
def toJson : Property → Json
  | .data json => json
  | .value v => v.toJson
  | .list items => .arr (toJsons items)
  | .record fields => Json.object (fieldsToJson fields)

/-- The JSON forms of the items of a list. -/
def toJsons : List Property → List Json
  | [] => []
  | item :: rest => toJson item :: toJsons rest

/-- The JSON forms of the fields of a record. -/
def fieldsToJson : List (String × Property) → List (String × Json)
  | [] => []
  | (key, property) :: rest => (key, toJson property) :: fieldsToJson rest

end

mutual

/-- The references in the values of a tree, in the order in which its fields are written down. -/
def references : Property → List Reference
  | .data _ => []
  | .value v => v.references
  | .list items => referencesOf items
  | .record fields => referencesOfFields fields

def referencesOf : List Property → List Reference
  | [] => []
  | item :: rest => references item ++ referencesOf rest

def referencesOfFields : List (String × Property) → List Reference
  | [] => []
  | (_, property) :: rest => references property ++ referencesOfFields rest

end

end Property

def SubnetType.word : SubnetType → String
  | «public» => "public"
  | «private» => "private"

open Property

/-- The source of a rule. -/
def IngressSource.property : IngressSource → Property
  | peer p => .record [("Peer", .data p.toJson)]
  | group g => .record [("SecurityGroup", .value g)]

/-- A rule that lets traffic in. -/
def IngressRule.property (rule : IngressRule) : Property :=
  .record
    [("Source", rule.source.property), ("Ports", .data rule.ports.toJson),
      ("Description", text rule.description)]

/-- A rule that lets traffic out. -/
def EgressRule.property (rule : EgressRule) : Property :=
  .record
    [("Destination", .data rule.destination.toJson), ("Ports", .data rule.ports.toJson),
      ("Description", text rule.description)]

/-- How a password is made up. -/
def PasswordPolicy.property (policy : PasswordPolicy) : Property :=
  .record
    [("SecretStringTemplate", text policy.template), ("GenerateStringKey", text policy.key),
      ("ExcludeCharacters", text policy.excludedCharacters),
      ("PasswordLength", nat policy.length)]

def MountTarget.property (target : MountTarget) : Property :=
  .record [("SubnetId", .value target.subnet), ("SecurityGroup", .value target.securityGroup)]

def Metric.property (metric : Metric) : Property :=
  .record
    [("Namespace", text metric.group), ("MetricName", text metric.name),
      ("Dimensions", dict metric.dimensions .value), ("Statistic", text metric.statistic),
      ("PeriodSeconds", nat metric.periodSeconds)]

def Graph.property (graph : Graph) : Property :=
  .record
    [("Title", text graph.title), ("Left", .list (graph.left.map Metric.property)),
      ("Width", nat graph.width), ("Height", nat graph.height)]

/-- A permission. -/
def PolicyStatement.property (statement : PolicyStatement) : Property :=
  .record
    [("Effect", text statement.effect), ("Actions", texts statement.actions),
      ("Resources", values statement.resources)]

/-- To whom a policy is attached. -/
def PolicyHolder.property : PolicyHolder → Property
  | user u => .record [("User", .value u)]
  | role r => .record [("Role", .value r)]

/-- A mounted file system. -/
def VolumeMount.property (mount : VolumeMount) : Property :=
  .record
    [("VolumeName", text mount.name), ("FileSystemId", .value mount.fileSystem),
      ("ContainerPath", text mount.path), ("ReadOnly", bool mount.readOnly)]

def Connection.property (connection : Connection) : Property :=
  .record
    [("TargetGroup", .value connection.target), ("Port", nat connection.port),
      ("Description", text connection.description)]

/-- The origin of a content network. -/
def Origin.property (origin : Origin) : Property :=
  .record
    [("DomainName", .value origin.domainName),
      ("OriginProtocolPolicy", text origin.protocolPolicy),
      ("OriginSslProtocols", texts origin.sslProtocols),
      ("OriginKeepaliveTimeoutSeconds", nat origin.keepaliveSeconds),
      ("ConnectionTimeoutSeconds", nat origin.connectionSeconds),
      ("OriginShieldRegion", text origin.shieldRegion)]

/-- The cache of a content network. -/
def CacheBehavior.property (cache : CacheBehavior) : Property :=
  .record
    [("AllowedMethods", texts cache.allowedMethods), ("CachedMethods", texts cache.cachedMethods),
      ("Compress", bool cache.compress), ("DefaultTtlSeconds", nat cache.defaultSeconds),
      ("ForwardQueryString", bool cache.forwardQuery),
      ("ForwardCookies", text cache.forwardCookies),
      ("ViewerProtocolPolicy", text cache.viewerProtocol)]

/-- The certificate of a content network. -/
def ViewerCertificate.property (certificate : ViewerCertificate) : Property :=
  .record
    [("CertificateArn", .value certificate.certificate), ("Aliases", texts certificate.aliases),
      ("SslSupportMethod", text certificate.sslMethod)]

namespace Spec

def clusterFields (spec : DatabaseCluster) : List (String × Property) :=
  [("Engine", text spec.engine), ("EngineVersion", text spec.engineVersion),
    ("Port", nat spec.port), ("MasterUserSecret", .value spec.masterSecret),
    ("MasterUsername", text spec.masterUsername),
    ("DbClusterParameterGroupName", .value spec.parameterGroup),
    ("SubnetIds", values spec.subnets), ("VpcSecurityGroupIds", values spec.securityGroups),
    ("BackupRetentionPeriod", nat spec.backupRetentionDays)] ++
  field? "PreferredBackupWindow" text spec.backupWindow ++
  field? "PreferredMaintenanceWindow" text spec.maintenanceWindow ++
  [("EnableIamDatabaseAuthentication", bool spec.iamAuthentication),
    ("StorageEncrypted", bool spec.encrypted), ("KmsKeyId", .value spec.key),
    ("DeletionProtection", bool spec.deletionProtection),
    ("SnapshotOnDelete", bool spec.snapshotOnDelete),
    ("CopyTagsToSnapshot", bool spec.copyTagsToSnapshot),
    ("EnableCloudwatchLogsExports", texts spec.logExports),
    ("LogRetentionDays", nat spec.logRetentionDays), ("Tags", dict spec.tags text)]

def serviceFields (spec : Service) : List (String × Property) :=
  [("Cluster", .value spec.cluster), ("Image", .value spec.image), ("Cpu", nat spec.cpu),
    ("MemoryLimitMib", nat spec.memory), ("DesiredCount", nat spec.count),
    ("PublicLoadBalancer", bool spec.publicBalancer),
    ("HealthCheckGracePeriodSeconds", nat spec.gracePeriodSeconds),
    ("HealthyHttpCodes", text spec.healthyCodes), ("SubnetIds", values spec.subnets),
    ("ExecutionRoleManagedPolicies", texts spec.executionPolicies),
    ("Volumes", .list (spec.volumes.map VolumeMount.property)),
    ("Connections", .list (spec.connections.map Connection.property)),
    ("Environment", dict spec.environment .value), ("LogGroupName", text spec.logGroup)]

/-- The fields of a declaration. A part that a kind of resource may lack is left out when it is not
set, apart from the name of a firewall, which is then null. -/
def fields : Spec → List (String × Property)
  | vpc spec =>
    [("CidrBlock", text spec.cidrBlock), ("MaxAzs", nat spec.maxAzs),
      ("NatGateways", nat spec.natGateways), ("EnableDnsHostnames", bool spec.dnsHostnames),
      ("EnableDnsSupport", bool spec.dnsSupport)]
  | subnet spec =>
    [("VpcId", .value spec.vpc), ("SubnetType", text spec.subnetType.word),
      ("AvailabilityZoneIndex", nat spec.zoneIndex), ("CidrBlock", text spec.cidrBlock),
      ("MapPublicIpOnLaunch", bool spec.publicAddresses), ("Name", text spec.name)]
  | repository spec => [("ImageScanOnPush", bool spec.scanOnPush)]
  | hostedZone spec => [("Name", text spec.name)]
  | securityGroup spec =>
    [("GroupName", text? spec.name), ("GroupDescription", text spec.description),
      ("VpcId", .value spec.vpc), ("Ingress", .list (spec.ingress.map IngressRule.property)),
      ("Egress", .list (spec.egress.map EgressRule.property))]
  | securityGroupIngress spec => [("GroupId", .value spec.group), ("Rule", spec.rule.property)]
  | parameterGroup spec =>
    [("Family", text spec.family), ("Description", text spec.description),
      ("Parameters", dict spec.parameters text)]
  | secret spec =>
    [("Name", text spec.name), ("Description", text spec.description)] ++
    field? "GenerateSecretString" PasswordPolicy.property spec.generated ++
    field? "SecretString" .value spec.given
  | encryptionKey spec =>
    [("Alias", text spec.aliasName), ("Description", text spec.description),
      ("EnableKeyRotation", bool spec.rotates)]
  | databaseCluster spec => clusterFields spec
  | databaseInstance spec =>
    [("DbClusterIdentifier", .value spec.cluster),
      ("DbInstanceIdentifier", text spec.identifier),
      ("DbInstanceClass", text spec.instanceClass), ("Engine", text spec.engine),
      ("PubliclyAccessible", bool spec.publiclyAccessible)]
  | rotationSchedule spec =>
    [("SecretId", .value spec.secret), ("RotationTarget", .value spec.target),
      ("AutomaticallyAfterDays", nat spec.afterDays), ("Strategy", text spec.strategy),
      ("ExcludeCharacters", text spec.excludedCharacters), ("SubnetIds", values spec.subnets)]
  | fileSystem spec =>
    [("Encrypted", bool spec.encrypted),
      ("MountTargets", dict spec.mountTargets MountTarget.property)]
  | dashboard spec =>
    [("DashboardName", text spec.name),
      ("Rows", .list (spec.rows.map fun row => .list (row.map Graph.property)))]
  | user spec => [("UserName", text spec.name)]
  | policy spec =>
    [("PolicyName", text spec.name), ("AttachTo", spec.holder.property),
      ("Statements", .list (spec.statements.map PolicyStatement.property))]
  | mailCredentials spec => [("User", .value spec.user), ("Region", text spec.region)]
  | certificate spec =>
    [("DomainName", text spec.domainName),
      ("SubjectAlternativeNames", texts spec.alternativeNames),
      ("CertificateName", text spec.name), ("ValidationMethod", text spec.validationMethod),
      ("ValidationZone", .value spec.validationZone)]
  | computeCluster spec => [("VpcId", .value spec.vpc)]
  | service spec => serviceFields spec
  | distribution spec =>
    [("Enabled", bool spec.enabled), ("Ipv6Enabled", bool spec.ipv6),
      ("HttpVersion", text spec.httpVersion), ("Origin", spec.origin.property),
      ("DefaultCacheBehavior", spec.cacheBehavior.property),
      ("ViewerCertificate", spec.viewerCertificate.property)]
  | aliasRecord spec =>
    [("HostedZoneId", .value spec.zone), ("Name", text spec.name),
      ("RecordType", text spec.recordType), ("AliasTarget", .value spec.target)]

/-- The properties of a declaration. -/
def properties (spec : Spec) : Property := .record spec.fields

/-- The references that a declaration embeds. -/
def references (spec : Spec) : List Reference := spec.properties.references

/-- The JSON form of a declaration: its kind and its properties. -/
def toJson (spec : Spec) : Json :=
  Json.object [("Type", .str spec.kind), ("Properties", spec.properties.toJson)]

end Spec

/-- The JSON form of a declared resource. -/
def Resource.toJson (resource : Resource) : Json :=
  Json.object
    [("id", .str resource.id.text), ("spec", resource.spec.toJson),
      ("retainOnTeardown", .bool resource.retained)]

def Service.toJson (service : Service) : Json :=
  (Property.record (Spec.serviceFields service)).toJson

def Dashboard.toJson (dashboard : Dashboard) : Json := (Spec.dashboard dashboard).properties.toJson

end Blueprint
