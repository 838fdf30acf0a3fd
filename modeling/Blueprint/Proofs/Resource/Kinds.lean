import Blueprint.Assembly

/-! The declarations of one kind. They are found by a function that reads them and passes over all
others; where the kinds of some resources are known, nothing of another kind is found. -/

namespace Blueprint

namespace Spec

def hostedZone? : Spec → Option HostedZone
  | hostedZone spec => some spec
  | _ => none

def certificate? : Spec → Option Certificate
  | certificate spec => some spec
  | _ => none

def service? : Spec → Option Service
  | service spec => some spec
  | _ => none

def distribution? : Spec → Option Distribution
  | distribution spec => some spec
  | _ => none

def aliasRecord? : Spec → Option AliasRecord
  | aliasRecord spec => some spec
  | _ => none

def secret? : Spec → Option Secret
  | secret spec => some spec
  | _ => none

def policy? : Spec → Option Policy
  | policy spec => some spec
  | _ => none

def securityGroup? : Spec → Option SecurityGroup
  | securityGroup spec => some spec
  | _ => none

def securityGroupIngress? : Spec → Option SecurityGroupIngress
  | securityGroupIngress spec => some spec
  | _ => none

def databaseCluster? : Spec → Option DatabaseCluster
  | databaseCluster spec => some spec
  | _ => none

def databaseInstance? : Spec → Option DatabaseInstance
  | databaseInstance spec => some spec
  | _ => none

def fileSystem? : Spec → Option FileSystem
  | fileSystem spec => some spec
  | _ => none

/-- A function reads declarations of one kind and no others. -/
def Reads {α : Type} (kind : String) (read? : Spec → Option α) : Prop :=
  ∀ spec, (read? spec).isSome = true → spec.kind = kind

theorem reads_hostedZone : Reads "AWS::Route53::HostedZone" hostedZone? := by
  intro spec h
  cases spec <;> first | rfl | cases h

theorem reads_certificate : Reads "AWS::CertificateManager::Certificate" certificate? := by
  intro spec h
  cases spec <;> first | rfl | cases h

theorem reads_service : Reads "Custom::ApplicationLoadBalancedFargateService" service? := by
  intro spec h
  cases spec <;> first | rfl | cases h

theorem reads_distribution : Reads "AWS::CloudFront::Distribution" distribution? := by
  intro spec h
  cases spec <;> first | rfl | cases h

theorem reads_aliasRecord : Reads "AWS::Route53::RecordSet" aliasRecord? := by
  intro spec h
  cases spec <;> first | rfl | cases h

theorem reads_secret : Reads "AWS::SecretsManager::Secret" secret? := by
  intro spec h
  cases spec <;> first | rfl | cases h

theorem reads_policy : Reads "AWS::IAM::Policy" policy? := by
  intro spec h
  cases spec <;> first | rfl | cases h

theorem reads_securityGroup : Reads "AWS::EC2::SecurityGroup" securityGroup? := by
  intro spec h
  cases spec <;> first | rfl | cases h

theorem reads_securityGroupIngress : Reads "AWS::EC2::SecurityGroupIngress" securityGroupIngress? := by
  intro spec h
  cases spec <;> first | rfl | cases h

theorem reads_databaseCluster : Reads "AWS::RDS::DBCluster" databaseCluster? := by
  intro spec h
  cases spec <;> first | rfl | cases h

theorem reads_fileSystem : Reads "AWS::EFS::FileSystem" fileSystem? := by
  intro spec h
  cases spec <;> first | rfl | cases h

end Spec

variable {α : Type} {read? : Spec → Option α} {resources : List Resource}

/-- The declarations that a function reads among some resources, with the identifiers. -/
def Resource.allOf (read? : Spec → Option α) (resources : List Resource) :
    List (ResourceId × α) :=
  resources.filterMap fun resource => (read? resource.spec).map fun spec => (resource.id, spec)

/-- Those of a topology, with its name. -/
def Topology.allOf (read? : Spec → Option α) (t : Topology) : List (String × ResourceId × α) :=
  (Resource.allOf read? t.resources).map fun declared => (t.name, declared)

/-- Those of an assembly, with the names of the topologies that declare them. -/
def Assembly.allOf (read? : Spec → Option α) (a : Assembly) : List (String × ResourceId × α) :=
  a.topologies.flatMap (Topology.allOf read?)

namespace Resource

theorem allOf_append (front back : List Resource) :
    allOf read? (front ++ back) = allOf read? front ++ allOf read? back :=
  List.filterMap_append

/-- Nothing is read among resources of other kinds. -/
theorem allOf_eq_nil {kind : String} (hReads : Spec.Reads kind read?) {kinds : List String}
    (hKinds : ∀ resource ∈ resources, resource.spec.kind ∈ kinds) (hOther : kind ∉ kinds) :
    allOf read? resources = [] := by
  refine List.filterMap_eq_nil_iff.mpr fun resource hMem => ?_
  cases hRead : read? resource.spec with
  | none => rfl
  | some spec =>
      have hKind := hReads resource.spec (by rw [hRead]; rfl)
      exact absurd (hKind ▸ hKinds resource hMem) hOther

end Resource

theorem Topology.allOf_eq_nil {t : Topology} {kind : String} (hReads : Spec.Reads kind read?)
    {kinds : List String} (hKinds : ∀ resource ∈ t.resources, resource.spec.kind ∈ kinds)
    (hOther : kind ∉ kinds) : t.allOf read? = [] := by
  rw [allOf, Resource.allOf_eq_nil hReads hKinds hOther, List.map_nil]

end Blueprint
