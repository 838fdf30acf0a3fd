import Blueprint.Tier

/-!
The web tier: the service of containers behind its load balancer, permissions and firewall rules for
what the service uses, and, where names are served, the content network in front of it with its
records in the zone.
-/

namespace Blueprint.Web

/-- What the web tier is made from. -/
structure Inputs where
  scope : Scope
  dns : DnsSettings
  settings : WebSettings
  network : NetworkHandle
  database : DatabaseHandle
  email : Option CredentialHandle
  certificate : Option CertificateHandle

/-! ### Names -/

/-- The variable with the name of the database credentials. -/
def databaseSecretVariable : String := "DB_CREDS_SECRET_ID"

/-- The variable with the name of the mail credentials. -/
def emailSecretVariable : String := "SES_CREDS_SECRET_ID"

def siteVariable : String := "DRUSH_OPTIONS_URI"

/-- The variable with the pattern of hosts that the site answers to. -/
def hostsVariable : String := "DRUPAL_TRUSTED_HOSTS"

def siteOutput : String := "OutputWebUrl"

def clusterId : ResourceId := .lit "EcsCluster"
def serviceId : ResourceId := .lit "EcsFargateAlb"
def databaseRuleId : ResourceId := .lit "RdsIngressFromService"
def filesystemRuleId : ResourceId := .lit "EfsIngressFromService"
def databasePolicyId : ResourceId := .lit "PolicyGetAuroraCredentials"
def emailPolicyId : ResourceId := .lit "PolicyGetSesCredentials"
def distributionId : ResourceId := .lit "CloudfrontDistribution"
def rootRecordId : ResourceId := .lit "Route53RecordRoot"
def hostRecordId : ResourceId := .lit "Route53RecordHost"

/-! ### The service -/

/-- The service before anything is attached to it. -/
def bareService (t : Topology) (inputs : Inputs) : Service :=
  { cluster := t.own clusterId Attribute.self
    image := .concat
      [t.imported inputs.network.repositoryUri, .literal (":" ++ inputs.settings.imageTag)]
    cpu := inputs.settings.cpu
    memory := inputs.settings.memory
    count := inputs.settings.instances
    publicBalancer := true
    subnets := inputs.network.privateSubnets.map fun subnet => t.imported subnet.subnet
    logGroup := "/ecs/" ++ t.name }

/-- A firewall that the service needs to get through, by rule, group, port and description. -/
structure Opening where
  ruleId : ResourceId
  group : Reference
  port : Nat
  description : String

/-- The firewalls that the service needs to get through. -/
def openings (database : DatabaseHandle) : List Opening :=
  [⟨databaseRuleId, database.securityGroup, database.port, "RDS Instance"⟩,
    ⟨filesystemRuleId, database.filesystem.securityGroup, database.filesystem.port,
      "EFS Filesystem"⟩]

/-- The connection of the service through a firewall. -/
def Opening.connection (opening : Opening) (t : Topology) : Connection :=
  ⟨t.imported opening.group, opening.port, opening.description⟩

/-- The rule that lets the service through a firewall. -/
def Opening.resource (opening : Opening) (t : Topology) : Resource :=
  { id := opening.ruleId
    spec := .securityGroupIngress
      { group := t.imported opening.group
        rule :=
          ⟨.group (t.own serviceId Attribute.securityGroupId), .tcp opening.port,
            opening.description⟩ } }

/-- A secret that the service may retrieve, by policy, credentials and variable. -/
structure Grant where
  policyId : ResourceId
  credentials : CredentialHandle
  key : String

/-- The secrets that the service may retrieve. -/
def grants (inputs : Inputs) : List Grant :=
  ⟨databasePolicyId, inputs.database.credentials, databaseSecretVariable⟩ ::
    inputs.email.toList.map fun email => ⟨emailPolicyId, email, emailSecretVariable⟩

/-- The policy that lets the service retrieve a secret. -/
def Grant.resource (grant : Grant) (t : Topology) : Resource :=
  { id := grant.policyId
    spec := .policy
      { name := t.name ++ grant.policyId.text
        holder := .role (t.own serviceId Attribute.taskRole)
        statements := [(grant.credentials.retrieval t).1] } }

/-! ### The content network -/

/-- The content network in front of the service. -/
def distribution (t : Topology) (inputs : Inputs) (certificate : CertificateHandle) :
    Distribution :=
  { enabled := true
    ipv6 := true
    httpVersion := "http2and3"
    origin :=
      { domainName := t.own serviceId Attribute.loadBalancerName
        protocolPolicy := "http-only"
        sslProtocols := ["SSLv3"]
        keepaliveSeconds := 30
        connectionSeconds := 3
        shieldRegion := (inputs.settings.shieldRegion.getD inputs.scope.region).name }
    cacheBehavior :=
      { allowedMethods := ["GET", "HEAD", "OPTIONS", "PUT", "PATCH", "POST", "DELETE"]
        cachedMethods := ["GET", "HEAD", "OPTIONS"]
        compress := true
        defaultSeconds := 30 * 24 * 60 * 60
        forwardQuery := true
        forwardCookies := "all"
        viewerProtocol := "redirect-to-https" }
    viewerCertificate :=
      { certificate := t.imported certificate.certificate
        aliases := certificate.domains.toList
        sslMethod := "sni-only" } }

/-- The names that lead to the content network, with the identifiers of their records. -/
def recordNames (dns : DnsSettings) : List (ResourceId × String) :=
  (if dns.root then [(rootRecordId, dns.domain)] else []) ++
    dns.host.toList.map fun host => (hostRecordId, host ++ "." ++ dns.domain)

/-- The content network and its records. -/
def frontResources (t : Topology) (inputs : Inputs) (certificate : CertificateHandle) :
    List Resource :=
  { id := distributionId, spec := .distribution (distribution t inputs certificate) } ::
    (recordNames inputs.dns).map fun (id, name) =>
      { id
        spec := .aliasRecord
          { zone := t.imported inputs.network.zone.zone
            name
            recordType := "A"
            target := t.own distributionId Attribute.domainName } }

/-! ### The tier -/

/-- The address of the site: the first served name, or else the load balancer. -/
def siteAddress (t : Topology) (certificate : Option CertificateHandle) : Value :=
  match certificate with
  | some certificate => .literal ("https://" ++ certificate.domains.primary)
  | none => .concat [.literal "http://", t.own serviceId Attribute.loadBalancerName]

/-- The references that the tier takes from others, in the order of their first use. -/
def imports (inputs : Inputs) : List Reference :=
  inputs.network.vpc :: inputs.network.repositoryUri ::
    inputs.network.privateSubnets.map SubnetHandle.subnet ++
    inputs.database.filesystem.fileSystem :: (openings inputs.database).map Opening.group ++
    (grants inputs).map (fun grant => grant.credentials.secret) ++
    inputs.certificate.toList.flatMap fun certificate =>
      [certificate.certificate, inputs.network.zone.zone]

/-- The service with all that is attached to it. -/
def runtime (t : Topology) (inputs : Inputs) : RuntimeHandle :=
  let service := RuntimeHandle.new t serviceId (bareService t inputs)
    (t.reference clusterId Attribute.self)
  let service := service.addExecutionPolicy "AmazonEC2ContainerRegistryPowerUser"
  let service := service.mount
    { name := "appfiles"
      fileSystem := t.imported inputs.database.filesystem.fileSystem
      path := "/mnt/efs"
      readOnly := false }
  let service := (openings inputs.database).foldl
    (fun service opening => service.connect (opening.connection t)) service
  let service := (grants inputs).foldl
    (fun service grant => service.setEnv grant.key (.literal grant.credentials.name)) service
  let service := service.setEnv siteVariable (siteAddress t inputs.certificate)
  service.setEnv hostsVariable
    (.concat [.literal "^", t.own serviceId Attribute.loadBalancerName, .literal "$"])

/-- The resources of the tier before the service. -/
def resources (t : Topology) (inputs : Inputs) : List Resource :=
  { id := clusterId, spec := .computeCluster ⟨t.imported inputs.network.vpc⟩ } ::
    (openings inputs.database).map (fun opening => opening.resource t) ++
    (grants inputs).map (fun grant => grant.resource t) ++
    inputs.certificate.toList.flatMap fun certificate => frontResources t inputs certificate

/-- What the tier tells about itself. -/
def outputs (t : Topology) (inputs : Inputs) : List Output :=
  [.exported siteOutput (siteAddress t inputs.certificate),
    .exported "OutputEcsClusterArn" (t.own clusterId Attribute.arn),
    .exported "OutputEcsServiceArn" (t.own serviceId Attribute.self),
    .exported "OutputEcsTaskLogGroup" (.literal (runtime t inputs).spec.logGroup)]

def create (inputs : Inputs) : Except ModelError (Tier RuntimeHandle) := do
  let t := (Topology.new (inputs.scope.topologyName "Web")
    inputs.scope.region).allowCrossRegion.dependOnAll (imports inputs)
  let topology ← t.declare (resources t inputs)
  let (handle, topology) ← (runtime t inputs).finalize topology
  let topology ← topology.tell (outputs t inputs)
  return { topology, handle }

end Blueprint.Web
