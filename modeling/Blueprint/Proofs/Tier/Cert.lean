import Blueprint.Proofs.Tier.Declaration
import Blueprint.Tier.Cert

/-! The certificate tier takes the zone, possibly from another region, and hands on the certificate.
Its declaration fails only where no name is served. -/

namespace Blueprint.Cert

/-- What later tiers may rely on. -/
structure Created (scope : Scope) (zone : ZoneHandle) (tier : Tier CertificateHandle) : Prop where
  name : tier.topology.name = scope.topologyName "Cert"
  region : tier.topology.region = .cdnHome
  crossRegion : tier.topology.crossRegion = true
  declares : tier.topology.Declares [zone.zone]
  exportNames : tier.topology.exportNames = []
  certificate : tier.topology.Offers tier.handle.certificate

/-- The topology before anything is declared in it. -/
def bare (scope : Scope) (zone : ZoneHandle) : Topology :=
  (Topology.new (scope.topologyName "Cert") .cdnHome).allowCrossRegion.dependOnAll [zone.zone]

/-- The resources of the tier. -/
def resources (scope : Scope) (zone : ZoneHandle) (domains : DomainList) : List Resource :=
  [{ id := certificateId
     spec := .certificate (certificate domains ((bare scope zone).imported zone.zone)) }]

/-- The tier with all that it declares. -/
def declared (scope : Scope) (zone : ZoneHandle) (domains : DomainList) : Tier CertificateHandle :=
  { topology := (bare scope zone).filled (resources scope zone domains) []
    handle := ⟨(bare scope zone).reference certificateId Attribute.self, domains⟩ }

theorem ofDns_eq_ok {dns : DnsSettings} (h : dns.wantsCertificate = true) :
    ∃ domains, DomainList.ofDns dns = .ok domains := by
  unfold DomainList.ofDns
  split
  · exact ⟨_, rfl⟩
  · exact ⟨_, rfl⟩
  · exact ⟨_, rfl⟩
  next hHost hRoot => simp [DnsSettings.wantsCertificate, hHost, hRoot] at h

theorem created_declared (scope : Scope) (zone : ZoneHandle) (domains : DomainList) :
    Created scope zone (declared scope zone domains) where
  name := Topology.dependOnAll_name _ _
  region := Topology.dependOnAll_region _ _
  crossRegion := Topology.dependOnAll_crossRegion _ _
  declares := by
    refine Topology.declares_filled [certificateId] [] rfl rfl (by decide) (by decide) ?_ ?_ ?_
    · simp only [resources, List.forall_mem_cons, List.not_mem_nil, false_imp_iff, implies_true,
        and_true]
      exact ⟨by simp [Spec.values, certificate], by simp [Spec.mapKeys]⟩
    · simp
    · intro name
      rw [bare, Topology.mem_dependencies_dependOnAll]
      simp [Topology.new, Topology.allowCrossRegion]
  exportNames := rfl
  certificate := Topology.offers_reference (.head _) (by decide)

/-- The zone is all that the tier refers to. -/
theorem marked_declared (scope : Scope) (zone : ZoneHandle) (domains : DomainList) :
    (declared scope zone domains).topology.marked =
      [(bare scope zone).localized zone.zone].filter Reference.crossRegion := by
  refine eq_of_perm_of_length_le_one (Topology.marked_perm _) (List.length_filter_le _ _)

theorem create_eq_declared (scope : Scope) {dns : DnsSettings} (zone : ZoneHandle)
    {domains : DomainList} (hDomains : DomainList.ofDns dns = .ok domains) :
    create scope dns zone = .ok (declared scope zone domains) := by
  have hDeclare : (bare scope zone).declare (resources scope zone domains) =
      .ok ((bare scope zone).filled (resources scope zone domains) []) :=
    Topology.declare_of_bare (Topology.dependOnAll_resources _ _) (Topology.dependOnAll_outputs _ _)
      (List.nodup_singleton _)
  unfold create
  exact bind_eq_ok_iff.mpr ⟨domains, hDomains, bind_eq_ok_iff.mpr ⟨_, hDeclare, rfl⟩⟩

/-- A certificate can be declared wherever one is wanted. -/
theorem create_eq_ok (scope : Scope) {dns : DnsSettings} (zone : ZoneHandle)
    (h : dns.wantsCertificate = true) :
    ∃ tier, create scope dns zone = .ok tier ∧ Created scope zone tier := by
  obtain ⟨domains, hDomains⟩ := ofDns_eq_ok h
  exact ⟨_, create_eq_declared scope zone hDomains, created_declared scope zone domains⟩

end Blueprint.Cert
