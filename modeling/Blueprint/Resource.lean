import Blueprint.Dict
import Blueprint.Network.Peer
import Blueprint.Value

/-!
Declarations of resources. Each of the twenty-two kinds of resource has a structure with its
settings; a field that may point at another resource is a `Value`, every other field is plain data.
-/

namespace Blueprint

/-! The names of attributes. -/

namespace Attribute

def self : String := "Ref"
def arn : String := "Arn"
def groupId : String := "GroupId"
def repositoryUri : String := "RepositoryUri"
def nameServers : String := "NameServers"
def endpointAddress : String := "Endpoint.Address"
def endpointPort : String := "Endpoint.Port"
def loadBalancerName : String := "LoadBalancerDnsName"
def securityGroupId : String := "SecurityGroupId"
def domainName : String := "DomainName"
def taskRole : String := "TaskRole"

end Attribute

/-- Whether machines in a subnet can be reached from outside. -/
inductive SubnetType where
  | «public»
  | «private»
  deriving DecidableEq

/-- A private network. -/
structure Vpc where
  cidrBlock : String
  maxAzs : Nat
  natGateways : Nat
  dnsHostnames : Bool
  dnsSupport : Bool

/-- A subnet in one availability zone. -/
structure Subnet where
  vpc : Value
  subnetType : SubnetType
  zoneIndex : Nat
  cidrBlock : String
  publicAddresses : Bool
  name : String

/-- A repository of container images. -/
structure Repository where
  scanOnPush : Bool

/-- A zone of the domain name system. -/
structure HostedZone where
  name : String

/-- Where traffic that a rule lets in comes from. -/
inductive IngressSource where
  | peer (peer : Peer)
  | group (group : Value)

/-- A rule that lets traffic in. -/
structure IngressRule where
  source : IngressSource
  ports : PortRange
  description : String

/-- A rule that lets traffic out. -/
structure EgressRule where
  destination : Peer
  ports : PortRange
  description : String

/-- A firewall around some machines. -/
structure SecurityGroup where
  name : Option String
  description : String
  vpc : Value
  ingress : List IngressRule
  egress : List EgressRule

/-- The rules of a firewall that let traffic in on a port. -/
def SecurityGroup.ingressOn (group : SecurityGroup) (port : Nat) : List IngressRule :=
  group.ingress.filter fun rule => rule.ports.covers port

/-- A rule added to a firewall from outside its declaration. -/
structure SecurityGroupIngress where
  group : Value
  rule : IngressRule

/-- Parameters of a database cluster. -/
structure ParameterGroup where
  family : String
  description : String
  parameters : Dict String

/-- How a password is made up. -/
structure PasswordPolicy where
  template : String
  key : String
  excludedCharacters : String
  length : Nat

/-- A secret, made up or given. -/
structure Secret where
  name : String
  description : String
  generated : Option PasswordPolicy
  given : Option Value

structure EncryptionKey where
  aliasName : String
  description : String
  rotates : Bool

structure DatabaseCluster where
  engine : String
  engineVersion : String
  port : Nat
  masterSecret : Value
  masterUsername : String
  parameterGroup : Value
  subnets : List Value
  securityGroups : List Value
  backupRetentionDays : Nat
  backupWindow : Option String
  maintenanceWindow : Option String
  iamAuthentication : Bool
  encrypted : Bool
  key : Value
  deletionProtection : Bool
  snapshotOnDelete : Bool
  copyTagsToSnapshot : Bool
  logExports : List String
  logRetentionDays : Nat
  tags : Dict String

/-- A machine of a database cluster. -/
structure DatabaseInstance where
  cluster : Value
  identifier : String
  instanceClass : String
  engine : String
  publiclyAccessible : Bool

/-- The schedule by which a secret is replaced. -/
structure RotationSchedule where
  secret : Value
  target : Value
  afterDays : Nat
  strategy : String
  excludedCharacters : String
  subnets : List Value

/-- A place where a file system can be mounted. -/
structure MountTarget where
  subnet : Value
  securityGroup : Value

structure FileSystem where
  encrypted : Bool
  /-- The mount targets under the identifiers of their subnets. -/
  mountTargets : Dict MountTarget

/-- A measured quantity. -/
structure Metric where
  group : String
  name : String
  dimensions : Dict Value
  statistic : String
  periodSeconds : Nat

/-- A graph of some metrics. -/
structure Graph where
  title : String
  left : List Metric
  width : Nat
  height : Nat

/-- A page of graphs. -/
structure Dashboard where
  name : String
  rows : List (List Graph)

/-- The graphs of a dashboard, row by row. -/
def Dashboard.graphs (dashboard : Dashboard) : List Graph := dashboard.rows.flatten

/-- A user that a program acts as. -/
structure User where
  name : String

/-- A permission for some actions on some resources. -/
structure PolicyStatement where
  effect : String
  actions : List String
  resources : List Value

def PolicyStatement.allow (actions : List String) (resources : List Value) : PolicyStatement :=
  ⟨"Allow", actions, resources⟩

/-- To whom a policy is attached. -/
inductive PolicyHolder where
  | user (user : Value)
  | role (role : Value)

/-- A policy of permissions. -/
structure Policy where
  name : String
  holder : PolicyHolder
  statements : List PolicyStatement

structure MailCredentials where
  user : Value
  region : String

/-- A certificate for domain names. -/
structure Certificate where
  domainName : String
  alternativeNames : List String
  name : String
  validationMethod : String
  validationZone : Value

/-- A cluster of container machines. -/
structure ComputeCluster where
  vpc : Value

/-- A file system mounted into a container. -/
structure VolumeMount where
  name : String
  fileSystem : Value
  path : String
  readOnly : Bool

/-- A port of another firewall that a service needs. -/
structure Connection where
  target : Value
  port : Nat
  description : String

/-- A service of containers behind a load balancer. Without more said, it is one small container to
which nothing is attached. -/
structure Service where
  cluster : Value
  image : Value
  cpu : Nat := 256
  memory : Nat := 512
  count : Nat := 1
  publicBalancer : Bool
  gracePeriodSeconds : Nat := 180
  healthyCodes : String := "200-399"
  subnets : List Value := []
  executionPolicies : List String := []
  volumes : List VolumeMount := []
  connections : List Connection := []
  environment : Dict Value := .empty
  logGroup : String

/-- How a content network answers from its cache. -/
structure CacheBehavior where
  allowedMethods : List String
  cachedMethods : List String
  compress : Bool
  defaultSeconds : Nat
  forwardQuery : Bool
  forwardCookies : String
  viewerProtocol : String

/-- Where a content network fetches what it has not cached. -/
structure Origin where
  domainName : Value
  protocolPolicy : String
  sslProtocols : List String
  keepaliveSeconds : Nat
  connectionSeconds : Nat
  shieldRegion : String

/-- The certificate that a content network shows. -/
structure ViewerCertificate where
  certificate : Value
  aliases : List String
  sslMethod : String

/-- A content network in front of a service. -/
structure Distribution where
  enabled : Bool
  ipv6 : Bool
  httpVersion : String
  origin : Origin
  cacheBehavior : CacheBehavior
  viewerCertificate : ViewerCertificate

/-- A name that leads to another resource. -/
structure AliasRecord where
  zone : Value
  name : String
  recordType : String
  target : Value

/-- The declaration of a resource, of one of the twenty-two kinds. -/
inductive Spec where
  | vpc (spec : Vpc)
  | subnet (spec : Subnet)
  | repository (spec : Repository)
  | hostedZone (spec : HostedZone)
  | securityGroup (spec : SecurityGroup)
  | securityGroupIngress (spec : SecurityGroupIngress)
  | parameterGroup (spec : ParameterGroup)
  | secret (spec : Secret)
  | encryptionKey (spec : EncryptionKey)
  | databaseCluster (spec : DatabaseCluster)
  | databaseInstance (spec : DatabaseInstance)
  | rotationSchedule (spec : RotationSchedule)
  | fileSystem (spec : FileSystem)
  | dashboard (spec : Dashboard)
  | user (spec : User)
  | policy (spec : Policy)
  | mailCredentials (spec : MailCredentials)
  | certificate (spec : Certificate)
  | computeCluster (spec : ComputeCluster)
  | service (spec : Service)
  | distribution (spec : Distribution)
  | aliasRecord (spec : AliasRecord)

/-- The provider's name for the kind of a resource. -/
def Spec.kind : Spec → String
  | vpc _ => "AWS::EC2::VPC"
  | subnet _ => "AWS::EC2::Subnet"
  | repository _ => "AWS::ECR::Repository"
  | hostedZone _ => "AWS::Route53::HostedZone"
  | securityGroup _ => "AWS::EC2::SecurityGroup"
  | securityGroupIngress _ => "AWS::EC2::SecurityGroupIngress"
  | parameterGroup _ => "AWS::RDS::DBClusterParameterGroup"
  | secret _ => "AWS::SecretsManager::Secret"
  | encryptionKey _ => "AWS::KMS::Key"
  | databaseCluster _ => "AWS::RDS::DBCluster"
  | databaseInstance _ => "AWS::RDS::DBInstance"
  | rotationSchedule _ => "AWS::SecretsManager::RotationSchedule"
  | fileSystem _ => "AWS::EFS::FileSystem"
  | dashboard _ => "AWS::CloudWatch::Dashboard"
  | user _ => "AWS::IAM::User"
  | policy _ => "AWS::IAM::Policy"
  | mailCredentials _ => "Custom::SesSmtpCredentials"
  | certificate _ => "AWS::CertificateManager::Certificate"
  | computeCluster _ => "AWS::ECS::Cluster"
  | service _ => "Custom::ApplicationLoadBalancedFargateService"
  | distribution _ => "AWS::CloudFront::Distribution"
  | aliasRecord _ => "AWS::Route53::RecordSet"

/-- A declared resource. -/
structure Resource where
  id : ResourceId
  spec : Spec
  /-- Whether the resource outlives its deployment. -/
  retained : Bool := false

end Blueprint
