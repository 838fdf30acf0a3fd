import Blueprint.Settings
import Blueprint.Topology

/-!
Handles: what one topology hands on to the next. A handle holds references to resources that its
topology declared; a consumer imports them before use. The handle of the running service also
collects what is attached to the service until its declaration is finalized.
-/

namespace Blueprint

/-- A subnet that others may use. -/
structure SubnetHandle where
  id : ResourceId
  subnetType : SubnetType
  subnet : Reference

/-- The zone in which names of the site are declared. -/
structure ZoneHandle where
  zone : Reference
  name : String

/-- What the base topology hands on. -/
structure NetworkHandle where
  vpc : Reference
  subnets : List SubnetHandle
  repositoryUri : Reference
  zone : ZoneHandle

/-- The subnets that cannot be reached from outside. -/
def NetworkHandle.privateSubnets (network : NetworkHandle) : List SubnetHandle :=
  network.subnets.filter fun subnet => subnet.subnetType = .private

/-- A secret with credentials, and the name by which a program asks for it. -/
structure CredentialHandle where
  name : String
  secret : Reference

/-- The permission to retrieve the credentials, and the consumer after importing the secret. -/
def CredentialHandle.retrieval (credentials : CredentialHandle) (consumer : Topology) :
    PolicyStatement × Topology :=
  let (secret, consumer) := consumer.importRef credentials.secret
  (.allow ["secretsmanager:GetSecretValue"] [secret], consumer)

/-- A shared file system. -/
structure FilesystemHandle where
  fileSystem : Reference
  securityGroup : Reference
  port : Nat

/-- The port of the network file system. -/
def FilesystemHandle.nfsPort : Nat := 2049

/-- What the data topology hands on. -/
structure DatabaseHandle where
  cluster : Reference
  clusterEndpoint : Reference
  instanceEndpoints : List Reference
  securityGroup : Reference
  credentials : CredentialHandle
  filesystem : FilesystemHandle
  engine : Engine

/-- The port that clients connect to. -/
def DatabaseHandle.port (database : DatabaseHandle) : Nat := database.engine.profile.port

/-- The names under which the site is served, at least one and at most two. -/
structure DomainList where
  primary : String
  alternate : Option String
  deriving DecidableEq

namespace DomainList

/-- The served names: the host below the domain first, and the domain if it is served itself. -/
def ofDns (dns : DnsSettings) : Except ModelError DomainList :=
  match dns.host, dns.root with
  | some host, true => .ok ⟨host ++ "." ++ dns.domain, some dns.domain⟩
  | some host, false => .ok ⟨host ++ "." ++ dns.domain, none⟩
  | none, true => .ok ⟨dns.domain, none⟩
  | none, false => .error .noServedName

/-- The names as a list. -/
def toList (domains : DomainList) : List String := domains.primary :: domains.alternate.toList

/-- The JSON form of the names. -/
def toJson (domains : DomainList) : Json :=
  Json.object
    [("primary", .str domains.primary), ("alternate", .optStr domains.alternate)]

end DomainList

/-- What the certificate topology hands on. -/
structure CertificateHandle where
  certificate : Reference
  domains : DomainList

/-- The service of the web topology. Until it is finalized, more can be attached to it. -/
structure RuntimeHandle where
  serviceId : ResourceId
  service : Reference
  cluster : Reference
  loadBalancerName : Reference
  taskRole : Reference
  securityGroup : Reference
  spec : Service
  /-- Whether the service has been declared. -/
  finalized : Bool

namespace RuntimeHandle

/-- A service that is going to be declared in a topology. -/
def new (t : Topology) (serviceId : ResourceId) (spec : Service) (cluster : Reference) :
    RuntimeHandle :=
  { serviceId, spec, cluster
    service := t.reference serviceId Attribute.self
    loadBalancerName := t.reference serviceId Attribute.loadBalancerName
    taskRole := t.reference serviceId Attribute.taskRole
    securityGroup := t.reference serviceId Attribute.securityGroupId
    finalized := false }

/-- Set a variable of the environment. -/
def setEnv (r : RuntimeHandle) (key : String) (value : Value) : RuntimeHandle :=
  { r with spec := { r.spec with environment := r.spec.environment.insert key value } }

/-- Mount a file system. -/
def mount (r : RuntimeHandle) (volume : VolumeMount) : RuntimeHandle :=
  { r with spec := { r.spec with volumes := r.spec.volumes ++ [volume] } }

/-- Connect to another firewall. -/
def connect (r : RuntimeHandle) (connection : Connection) : RuntimeHandle :=
  { r with spec := { r.spec with connections := r.spec.connections ++ [connection] } }

/-- Give the role that starts the service a further policy. -/
def addExecutionPolicy (r : RuntimeHandle) (policy : String) : RuntimeHandle :=
  { r with spec := { r.spec with executionPolicies := r.spec.executionPolicies ++ [policy] } }

/-- The declaration of the service as it stands. -/
def resource (r : RuntimeHandle) : Resource := { id := r.serviceId, spec := .service r.spec }

/-- Declare the service with all that was attached to it. Only then is the handle finalized. -/
def declareIn (r : RuntimeHandle) (t : Topology) :
    Except ModelError Unit × RuntimeHandle × Topology :=
  match t.declareResource r.resource with
  | (.ok _, t) => (.ok (), { r with finalized := true }, t)
  | (.error e, t) => (.error e, r, t)

/-- The finalized handle and its topology, for those who give up if the service is refused. -/
def finalize (r : RuntimeHandle) (t : Topology) : Except ModelError (RuntimeHandle × Topology) :=
  let (result, next) := r.declareIn t
  result.map fun _ => next

end RuntimeHandle

/-! ### JSON forms -/

def SubnetHandle.toJson (subnet : SubnetHandle) : Json :=
  Json.object
    [("localId", .str subnet.id.text), ("subnetType", .str subnet.subnetType.word),
      ("subnet", subnet.subnet.toJson)]

def ZoneHandle.toJson (zone : ZoneHandle) : Json :=
  Json.object [("zone", zone.zone.toJson), ("name", .str zone.name)]

def NetworkHandle.toJson (network : NetworkHandle) : Json :=
  Json.object
    [("vpc", network.vpc.toJson), ("subnets", .arr (network.subnets.map SubnetHandle.toJson)),
      ("repositoryUri", network.repositoryUri.toJson), ("zone", network.zone.toJson)]

def CredentialHandle.toJson (credentials : CredentialHandle) : Json :=
  Json.object [("name", .str credentials.name), ("secret", credentials.secret.toJson)]

def FilesystemHandle.toJson (filesystem : FilesystemHandle) : Json :=
  Json.object
    [("fileSystem", filesystem.fileSystem.toJson),
      ("securityGroup", filesystem.securityGroup.toJson), ("port", .nat filesystem.port)]

/-- The JSON form of a database handle. The engine is not part of it. -/
def DatabaseHandle.toJson (database : DatabaseHandle) : Json :=
  Json.object
    [("cluster", database.cluster.toJson),
      ("clusterEndpoint", database.clusterEndpoint.toJson),
      ("instanceEndpoints", .arr (database.instanceEndpoints.map Reference.toJson)),
      ("securityGroup", database.securityGroup.toJson),
      ("credentials", database.credentials.toJson), ("filesystem", database.filesystem.toJson)]

def CertificateHandle.toJson (certificate : CertificateHandle) : Json :=
  Json.object
    [("certificate", certificate.certificate.toJson), ("domains", certificate.domains.toJson)]

def RuntimeHandle.toJson (r : RuntimeHandle) : Json :=
  Json.object
    [("serviceId", .str r.serviceId.text), ("service", r.service.toJson),
      ("cluster", r.cluster.toJson), ("loadBalancerDns", r.loadBalancerName.toJson),
      ("taskRole", r.taskRole.toJson), ("serviceSecurityGroup", r.securityGroup.toJson),
      ("spec", r.spec.toJson), ("finalized", .bool r.finalized)]

end Blueprint
