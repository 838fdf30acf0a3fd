import Blueprint.Proofs.Resource.Kinds
import Blueprint.Proofs.Tier.Base
import Blueprint.Proofs.Tier.Cert
import Blueprint.Proofs.Tier.Data
import Blueprint.Proofs.Tier.Email
import Blueprint.Proofs.Tier.Web

/-! The kinds of resources in each tier, and what a tier declares of the kinds that make a site
public: the zone in the base tier, the certificate in a tier of its own, and the service, the
content network and the records in the web tier. -/

namespace Blueprint

open Resource

namespace Base

def kinds : List String :=
  ["AWS::EC2::VPC", "AWS::EC2::Subnet", "AWS::ECR::Repository", "AWS::Route53::HostedZone"]

theorem kind_mem {maxAzs : Nat} {dns : DnsSettings} {subnets : List (ResourceId × Subnet)} :
    ∀ resource ∈ resources maxAzs dns subnets, resource.spec.kind ∈ kinds := by
  refine List.forall_mem_append.mpr ⟨List.forall_mem_append.mpr ⟨?_, ?_⟩, ?_⟩
  · simp [kinds, Spec.kind]
  · exact List.forall_mem_map.mpr fun subnet _ => by simp [kinds, Spec.kind]
  · simp [kinds, Spec.kind]

theorem allOf_hostedZone {maxAzs : Nat} {dns : DnsSettings}
    {subnets : List (ResourceId × Subnet)} :
    allOf Spec.hostedZone? (resources maxAzs dns subnets) = [(zoneId, ⟨dns.domain⟩)] := by
  have hSubnets : allOf Spec.hostedZone? (subnets.map fun subnet =>
      { id := subnet.1, spec := .subnet subnet.2 }) = [] :=
    allOf_eq_nil Spec.reads_hostedZone
      (List.forall_mem_map.mpr fun _ _ => List.mem_singleton_self "AWS::EC2::Subnet") (by decide)
  rw [resources, allOf_append, allOf_append, hSubnets]
  rfl

end Base

namespace Data

def kinds : List String :=
  ["AWS::EC2::SecurityGroup", "AWS::EC2::SecurityGroupIngress", "AWS::RDS::DBClusterParameterGroup",
    "AWS::SecretsManager::Secret", "AWS::KMS::Key", "AWS::RDS::DBCluster", "AWS::RDS::DBInstance",
    "AWS::SecretsManager::RotationSchedule", "AWS::EFS::FileSystem", "AWS::CloudWatch::Dashboard"]

theorem kind_mem {scope : Scope} {settings : DatabaseSettings} {network : NetworkHandle}
    {instances : List (Nat × ResourceId)} :
    ∀ resource ∈ resources scope settings network instances, resource.spec.kind ∈ kinds := by
  refine List.forall_mem_append.mpr ⟨List.forall_mem_append.mpr ⟨?_, ?_⟩, ?_⟩
  · simp [clusterResources, kinds, Spec.kind]
  · exact List.forall_mem_map.mpr fun machine _ => by simp [instanceResource, kinds, Spec.kind]
  · simp [filesystemResources, kinds, Spec.kind]

section

variable {scope : Scope} {settings : DatabaseSettings} {network : NetworkHandle}
  {instances : List (Nat × ResourceId)}

/-- What is not a machine is read among the other resources. -/
theorem allOf_resources {α : Type} {kind : String} {read? : Spec → Option α}
    (hReads : Spec.Reads kind read?) (hOther : kind ≠ "AWS::RDS::DBInstance") :
    allOf read? (resources scope settings network instances) =
      allOf read? (clusterResources (bare scope network) settings
        ((bare scope network).imported network.vpc) ((subnets scope network).map Prod.snd)) ++
      allOf read? (filesystemResources (bare scope network) settings
        ((bare scope network).imported network.vpc) (subnets scope network)) := by
  have hInstances : allOf read? (instances.map fun machine =>
      instanceResource (bare scope network) settings machine.1 machine.2) = [] :=
    allOf_eq_nil hReads
      (List.forall_mem_map.mpr fun _ _ => List.mem_singleton_self "AWS::RDS::DBInstance")
      (by simpa using hOther)
  rw [resources, allOf_append, allOf_append, hInstances, List.append_nil]

/-- The tier declares one secret, and tells its name. -/
theorem allOf_secret (scope : Scope) (settings : DatabaseSettings) (network : NetworkHandle)
    (instances : List (Nat × ResourceId)) : ∃ secret : Secret,
    secret.name = secretName settings ∧
    allOf Spec.secret? (resources scope settings network instances) = [(secretId, secret)] := by
  rw [allOf_resources Spec.reads_secret (by decide)]
  exact ⟨_, rfl, rfl⟩

theorem allOf_databaseCluster :
    allOf Spec.databaseCluster? (resources scope settings network instances) =
      [(clusterId,
        cluster (bare scope network) settings ((subnets scope network).map Prod.snd))] := by
  rw [allOf_resources Spec.reads_databaseCluster (by decide)]
  rfl

/-- The tier declares two firewalls, that of the cluster and that of the file system. -/
theorem allOf_securityGroup :
    (allOf Spec.securityGroup? (resources scope settings network instances)).map Prod.fst =
      [groupId, filesystemGroupId] := by
  rw [allOf_resources Spec.reads_securityGroup (by decide)]
  rfl

/-- The tier declares one file system, which can be mounted through its own firewall only. -/
theorem allOf_fileSystem (scope : Scope) (settings : DatabaseSettings) (network : NetworkHandle)
    (instances : List (Nat × ResourceId)) : ∃ fileSystem : FileSystem,
    (∀ target ∈ fileSystem.mountTargets.values,
      target.securityGroup = (bare scope network).own filesystemGroupId Attribute.groupId) ∧
    allOf Spec.fileSystem? (resources scope settings network instances) =
      [(filesystemId, fileSystem)] := by
  rw [allOf_resources Spec.reads_fileSystem (by decide)]
  refine ⟨_, ?_, rfl⟩
  exact Dict.forall_values_ofList (List.forall_mem_map.mpr fun _ _ => rfl)

end

end Data

namespace Email

def kinds : List String :=
  ["AWS::IAM::User", "AWS::IAM::Policy", "Custom::SesSmtpCredentials",
    "AWS::SecretsManager::Secret"]

theorem kind_mem {t : Topology} {scope : Scope} :
    ∀ resource ∈ resources t scope, resource.spec.kind ∈ kinds := by
  simp [resources, kinds, Spec.kind]

/-- The tier declares one secret, and tells its name. -/
theorem allOf_secret (t : Topology) (scope : Scope) : ∃ secret : Secret,
    secret.name = secretName scope ∧
      allOf Spec.secret? (resources t scope) = [(secretId, secret)] :=
  ⟨_, rfl, rfl⟩

end Email

namespace Cert

def kinds : List String := ["AWS::CertificateManager::Certificate"]

theorem kind_mem {scope : Scope} {zone : ZoneHandle} {domains : DomainList} :
    ∀ resource ∈ resources scope zone domains, resource.spec.kind ∈ kinds := by
  simp [resources, kinds, Spec.kind]

end Cert

namespace Web

def innerKinds : List String :=
  ["AWS::ECS::Cluster", "AWS::EC2::SecurityGroupIngress", "AWS::IAM::Policy"]

def frontKinds : List String := ["AWS::CloudFront::Distribution", "AWS::Route53::RecordSet"]

def serviceKinds : List String := ["Custom::ApplicationLoadBalancedFargateService"]

def kinds : List String := innerKinds ++ frontKinds ++ serviceKinds

variable {t : Topology} {inputs : Inputs}

theorem kind_mem_inner :
    ∀ resource ∈ innerResources t inputs, resource.spec.kind ∈ innerKinds := by
  refine List.forall_mem_append.mpr ⟨List.forall_mem_cons.mpr ⟨?_, ?_⟩, ?_⟩
  · simp [innerKinds, Spec.kind]
  · exact List.forall_mem_map.mpr fun opening _ => by
      simp [Opening.resource, innerKinds, Spec.kind]
  · exact List.forall_mem_map.mpr fun grant _ => by simp [Grant.resource, innerKinds, Spec.kind]

theorem kind_mem_front : ∀ resource ∈ inputs.certificate.toList.flatMap fun certificate =>
    frontResources t inputs certificate, resource.spec.kind ∈ frontKinds := by
  refine List.forall_mem_flatMap.mpr fun certificate _ => List.forall_mem_cons.mpr ⟨?_, ?_⟩
  · simp [frontKinds, Spec.kind]
  · exact List.forall_mem_map.mpr fun named _ => by simp [frontKinds, Spec.kind]

theorem kind_mem_service : ∀ resource ∈
    [({ id := serviceId, spec := .service (service t inputs) } : Resource)],
      resource.spec.kind ∈ serviceKinds := by
  simp [serviceKinds, Spec.kind]

theorem kind_mem : ∀ resource ∈ allResources inputs, resource.spec.kind ∈ kinds := by
  rw [allResources_eq]
  refine List.forall_mem_append.mpr ⟨List.forall_mem_append.mpr ⟨?_, ?_⟩, ?_⟩
  · exact fun resource hMem => by simp [kinds, kind_mem_inner resource hMem]
  · exact fun resource hMem => by simp [kinds, kind_mem_front resource hMem]
  · simp [kinds, serviceKinds, Spec.kind]

theorem allOf_service :
    allOf Spec.service? (allResources inputs) = [(serviceId, service (bare inputs) inputs)] := by
  rw [allResources_eq, allOf_append, allOf_append,
    allOf_eq_nil Spec.reads_service kind_mem_inner (by decide),
    allOf_eq_nil Spec.reads_service kind_mem_front (by decide)]
  rfl

/-- The policy for a secret. -/
def Grant.policy (grant : Grant) (t : Topology) : Policy :=
  { name := t.name ++ grant.policyId.text
    holder := .role (t.own serviceId Attribute.taskRole)
    statements := [(grant.credentials.retrieval t).1] }

/-- The rule for a firewall. -/
def Opening.rule (opening : Opening) (t : Topology) : SecurityGroupIngress :=
  { group := t.imported opening.group
    rule :=
      ⟨.group (t.own serviceId Attribute.securityGroupId), .tcp opening.port,
        opening.description⟩ }

/-- What is not read among the front and the service is read among the resources of the service. -/
theorem allOf_eq_inner {α : Type} {kind : String} {read? : Spec → Option α}
    (hReads : Spec.Reads kind read?) (hOther : kind ∉ frontKinds ++ serviceKinds) :
    allOf read? (allResources inputs) = allOf read? (innerResources (bare inputs) inputs) := by
  rw [List.mem_append, not_or] at hOther
  rw [allResources_eq, allOf_append, allOf_append, allOf_eq_nil hReads kind_mem_service hOther.2,
    allOf_eq_nil hReads kind_mem_front hOther.1, List.append_nil, List.append_nil]

theorem allOf_policy : allOf Spec.policy? (allResources inputs) =
    (grants inputs).map fun grant => (grant.policyId, grant.policy (bare inputs)) := by
  rw [allOf_eq_inner Spec.reads_policy (by decide)]
  simp [innerResources, allOf, List.filterMap_map, Opening.resource, Grant.resource,
    Grant.policy, Spec.policy?]

theorem allOf_securityGroupIngress :
    allOf Spec.securityGroupIngress? (allResources inputs) =
      (openings inputs.database).map fun opening =>
        (opening.ruleId, opening.rule (bare inputs)) := by
  rw [allOf_eq_inner Spec.reads_securityGroupIngress (by decide)]
  simp [innerResources, allOf, List.filterMap_map, Opening.resource, Opening.rule,
    Grant.resource, Spec.securityGroupIngress?]

/-- Without a certificate nothing stands in front of the service. -/
theorem kind_mem_of_none (hNone : inputs.certificate = none) :
    ∀ resource ∈ allResources inputs, resource.spec.kind ∈ innerKinds ++ serviceKinds := by
  rw [allResources_eq, hNone]
  refine List.forall_mem_append.mpr ⟨List.forall_mem_append.mpr ⟨?_, by simp⟩, ?_⟩
  · exact fun resource hMem => by simp [kind_mem_inner resource hMem]
  · simp [serviceKinds, Spec.kind]

section

variable {certificate : CertificateHandle} (hCertificate : inputs.certificate = some certificate)

include hCertificate

/-- What is read in front of the service is all that is read of its kind. -/
theorem allOf_eq_front {α : Type} {kind : String} {read? : Spec → Option α}
    (hReads : Spec.Reads kind read?) (hOther : kind ∉ innerKinds ++ serviceKinds) :
    allOf read? (allResources inputs) =
      allOf read? (frontResources (bare inputs) inputs certificate) := by
  rw [List.mem_append, not_or] at hOther
  rw [allResources_eq, allOf_append, allOf_append, allOf_eq_nil hReads kind_mem_service hOther.2,
    allOf_eq_nil hReads kind_mem_inner hOther.1, hCertificate]
  simp

theorem allOf_distribution : allOf Spec.distribution? (allResources inputs) =
    [(distributionId, distribution (bare inputs) inputs certificate)] := by
  rw [allOf_eq_front hCertificate Spec.reads_distribution (by decide), frontResources_eq]
  simp [allOf, List.filterMap_map, Spec.distribution?]

theorem allOf_aliasRecord : allOf Spec.aliasRecord? (allResources inputs) =
    (recordNames inputs.dns).map fun named =>
      (named.1, aliasRecord (bare inputs) inputs named.2) := by
  rw [allOf_eq_front hCertificate Spec.reads_aliasRecord (by decide), frontResources_eq]
  simp [allOf, List.filterMap_map, Spec.aliasRecord?]

end

end Web

end Blueprint
