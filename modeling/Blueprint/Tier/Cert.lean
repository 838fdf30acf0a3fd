import Blueprint.Tier

/-!
The certificate tier: one certificate for all served names. Whatever the region of the deployment,
the certificate is declared in the home region of the content network.
-/

namespace Blueprint.Cert

def certificateId : ResourceId := .lit "AcmCertificate"

/-- The certificate for some names, validated through a zone. -/
def certificate (domains : DomainList) (zone : Value) : Certificate :=
  { domainName := domains.primary
    alternativeNames := domains.alternate.toList
    name := "SSL certificate for " ++ String.intercalate ", " domains.toList
    validationMethod := "DNS"
    validationZone := zone }

/-- Declare the certificate tier. -/
def create (scope : Scope) (dns : DnsSettings) (zone : ZoneHandle) :
    Except ModelError (Tier CertificateHandle) := do
  let domains ← DomainList.ofDns dns
  let t := (Topology.new (scope.topologyName "Cert") .cdnHome).allowCrossRegion.dependOnAll
    [zone.zone]
  let topology ← t.declare
    [{ id := certificateId, spec := .certificate (certificate domains (t.imported zone.zone)) }]
  return { topology, handle := ⟨t.reference certificateId Attribute.self, domains⟩ }

end Blueprint.Cert
