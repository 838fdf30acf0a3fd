import Blueprint.Tier

/-!
The base tier: the private network with its subnets, the repository of container images and the
zone of the domain name system.
-/

namespace Blueprint.Base

/-- The address range of the network. -/
def cidrBlock : String := "10.0.0.0/16"

/-- The address range of the subnet at an index. -/
def subnetCidr (index : Nat) : String := s!"10.0.{index * 32}.0/19"

/-- The name of a subnet in the zone at an index, which counts from one. -/
def subnetName (subnetType : SubnetType) (zone : Nat) : String :=
  match subnetType with
  | .public => s!"Public-Subnet-{zone}"
  | .private => s!"Private-Subnet-{zone}"

/-- The kinds and zones of the subnets: first one public subnet for each zone, then one private. -/
def layout (maxAzs : Nat) : List (SubnetType × Nat) :=
  let zones := (List.range maxAzs).map (· + 1)
  zones.map (fun zone => (.public, zone)) ++ zones.map fun zone => (.private, zone)

/-- The subnets with their identifiers. The identifier is the name without its hyphens. -/
def subnets (vpc : Value) (maxAzs : Nat) : Except ModelError (List (ResourceId × Subnet)) :=
  (layout maxAzs).zipIdx.mapM fun ((subnetType, zone), index) => do
    let name := subnetName subnetType zone
    let id ← ResourceId.sanitized name
    return (id,
      { vpc, subnetType, name
        zoneIndex := zone - 1
        cidrBlock := subnetCidr index
        publicAddresses := subnetType = .public })

def vpcId : ResourceId := .lit "Vpc"
def repositoryId : ResourceId := .lit "EcrRepository"
def zoneId : ResourceId := .lit "Route53Zone"

/-- Declare the base tier. -/
def create (scope : Scope) (maxAzs : Nat) (dns : DnsSettings) :
    Except ModelError (Tier NetworkHandle) := do
  let t := (Topology.new (scope.topologyName "Base") scope.region).allowCrossRegion
  let vpc : Vpc :=
    { cidrBlock, maxAzs, natGateways := maxAzs, dnsHostnames := true, dnsSupport := true }
  let subnets ← subnets (t.own vpcId Attribute.self) maxAzs
  let repositoryUri := t.reference repositoryId Attribute.repositoryUri
  let topology ← t.declare
    ([{ id := vpcId, spec := .vpc vpc }] ++
      subnets.map (fun (id, subnet) => { id, spec := .subnet subnet }) ++
      [{ id := repositoryId, spec := .repository ⟨true⟩ },
        { id := zoneId, spec := .hostedZone ⟨dns.domain⟩ }])
  let topology ← topology.tell
    [.exported "OutputEcrImageUrl" (.ref repositoryUri),
      .exported "OutputZoneNameServers" (.joinList "\n" (t.own zoneId Attribute.nameServers))]
  return {
    topology
    handle := {
      repositoryUri
      vpc := t.reference vpcId Attribute.self
      subnets := subnets.map fun (id, subnet) =>
        { id, subnetType := subnet.subnetType, subnet := t.reference id Attribute.self }
      zone := ⟨t.reference zoneId Attribute.self, dns.domain⟩ } }

end Blueprint.Base
