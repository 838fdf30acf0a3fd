import Blueprint.Proofs.Deployment.Kinds
import Blueprint.Proofs.Deployment.Wiring
import Blueprint.Proofs.Settings.Change

/-! The public names of a site. Four places derive them on their own: the list of served names, the
certificate, the content network and the records. The four agree for all settings of the domain, so
whatever is served is certified and found, and nothing else is. -/

namespace Blueprint

/-! ### The served names -/

/-- A name is under a domain: it is the domain itself, or something before it and a dot. -/
def IsUnder (domain name : String) : Prop := name = domain ∨ ∃ label, name = label ++ "." ++ domain

namespace DomainList

variable {dns : DnsSettings} {domains : DomainList}

/-- The certificate is for the names that have records. -/
theorem mem_toList_iff (h : ofDns dns = .ok domains) {name : String} :
    name ∈ domains.toList ↔ name ∈ (Web.recordNames dns).map Prod.snd := by
  obtain ⟨domain, host, root⟩ := dns
  cases host <;> cases root <;> cases h <;> simp [toList, Web.recordNames, or_comm]

/-- What is served is the domain itself and the host below it. -/
theorem mem_toList_cases (h : ofDns dns = .ok domains) {name : String} : name ∈ domains.toList ↔
    dns.root = true ∧ name = dns.domain ∨ ∃ host ∈ dns.host, name = host ++ "." ++ dns.domain := by
  obtain ⟨domain, host, root⟩ := dns
  cases host <;> cases root <;> cases h <;> simp [toList, or_comm]

theorem nodup_toList (h : ofDns dns = .ok domains) : domains.toList.Nodup := by
  have hLonger : ∀ host domain : String, host ++ "." ++ domain ≠ domain := by
    intro host domain hSame
    have hLength := congrArg String.length hSame
    simp only [String.length_append] at hLength
    have hDot : ".".length = 1 := rfl
    omega
  obtain ⟨domain, host, root⟩ := dns
  cases host <;> cases root <;> cases h <;> simp [toList, hLonger]

theorem isUnder_of_mem (h : ofDns dns = .ok domains) {name : String}
    (hMem : name ∈ domains.toList) : IsUnder dns.domain name := by
  rcases (mem_toList_cases h).mp hMem with ⟨-, rfl⟩ | ⟨host, -, rfl⟩
  · exact .inl rfl
  · exact .inr ⟨host, rfl⟩

end DomainList

/-- A document asks for a public name: it has a host, or it serves the domain itself. -/
def Document.ServesName (d : Document) : Prop :=
  bare d.dnsDomainHost ≠ "" ∨ d.dnsDomainEnableRoot = some true

theorem Document.Means.wantsCertificate_iff {d : Document} {s : Settings} (h : d.Means s) :
    s.dns.wantsCertificate = true ↔ d.ServesName := by
  rw [DnsSettings.wantsCertificate, Bool.or_eq_true, h.host, h.root, ServesName]
  refine or_congr ?_ ?_
  · unfold trimmed? bare
    dsimp only
    split <;> simp_all
  · cases d.dnsDomainEnableRoot <;> simp

/-! ### The address of the site -/

theorem Web.get?_environment (t : Topology) (inputs : Inputs) :
    (service t inputs).environment.get? siteVariable =
      some (siteAddress t inputs.certificate) := by
  rw [service, environment, Dict.get?_insert, if_neg (by decide), Dict.get?_insert, if_pos rfl]

theorem Web.output?_declared (inputs : Inputs) :
    (declared inputs).topology.output? siteOutput =
      some (.exported siteOutput (siteAddress (bare inputs) inputs.certificate)) := by
  simp [Topology.output?, declared, Topology.filled, outputs, Output.exported]

namespace Tiers

variable {settings : Settings} {tiers : Tiers}

theorem MadeFrom.topology?_eq {c : Composition} (h : tiers.MadeFrom c) {t : Topology}
    (hMem : t ∈ tiers.topologies) : tiers.assembly.topology? t.name = some t :=
  find?_eq_some_of_nodup h.nodup_names hMem

/-- What the web tier tells as its address is what its service is told. -/
theorem publicUrl_ofTiers (h : tiers.CreatedFor (.ofSettings settings))
    (hMade : tiers.MadeFrom (.ofSettings settings)) :
    (Deployment.ofTiers settings tiers).publicUrl =
      some (Web.siteAddress (Web.bare (tiers.webInputs (.ofSettings settings)))
        (tiers.cert.map Tier.handle)) := by
  have hFound : tiers.assembly.topology? (settings.scope.topologyName "Web") =
      some tiers.web.topology := by
    rw [← hMade.topology?_eq (t := tiers.web.topology) (by simp [topologies]), hMade.web.name]
    rfl
  have hOutput := Web.output?_declared (tiers.webInputs (.ofSettings settings))
  rw [← h.eq_declared_web] at hOutput
  simp only [Deployment.publicUrl, Deployment.ofTiers, hFound, hOutput, Option.bind_eq_bind,
    Option.bind_some]
  rfl

/-- There is a certificate exactly for a site with public names, and it is for these names. -/
theorem CreatedFor.cert_of_settings (h : tiers.CreatedFor (.ofSettings settings)) :
    settings.dns.wantsCertificate = false ∧ tiers.cert = none ∨
      settings.dns.wantsCertificate = true ∧ ∃ domains,
        DomainList.ofDns settings.dns = .ok domains ∧ tiers.cert =
          some (Cert.declared settings.scope tiers.base.handle.zone domains) := by
  rcases h.eq_declared_cert with ⟨hDns, hCert⟩ | ⟨dns, domains, hDns, hDomains, hCert⟩
  · exact .inl ⟨by simpa [Composition.ofSettings] using hDns, hCert⟩
  · obtain ⟨hWanted, hSame⟩ := Option.ite_none_right_eq_some.mp hDns
    rw [← Option.some.inj hSame] at hDomains
    exact .inr ⟨hWanted, domains, hDomains, hCert⟩

theorem CreatedFor.allOf_service (h : tiers.CreatedFor (.ofSettings settings))
    (hSorted : tiers.Sorted) :
    tiers.assembly.allOf Spec.service? =
      [(tiers.web.topology.name, Web.serviceId,
        Web.service (Web.bare (tiers.webInputs (.ofSettings settings)))
          (tiers.webInputs (.ofSettings settings)))] := by
  rw [hSorted.allOf_eq_web Spec.reads_service (by decide), h.eq_declared_web]
  exact congrArg (List.map _) Web.allOf_service

end Tiers

/-- The names under which a site is served hang together: they are those of the certificate, of the
content network and of the records, and they are under the domain of the zone. -/
structure Assembly.ServesUnder (a : Assembly) (base cert web : Topology)
    (zone : ResourceId × HostedZone) (certificate : ResourceId × Certificate)
    (distribution : ResourceId × Distribution) : Prop where
  zones : a.allOf Spec.hostedZone? = [(base.name, zone)]
  certificates : a.allOf Spec.certificate? = [(cert.name, certificate)]
  distributions : a.allOf Spec.distribution? = [(web.name, distribution)]
  certified : distribution.2.viewerCertificate.certificate =
    web.imported (cert.reference certificate.1 Attribute.self)
  aliases : distribution.2.viewerCertificate.aliases =
    certificate.2.domainName :: certificate.2.alternativeNames
  nodup : distribution.2.viewerCertificate.aliases.Nodup
  /-- The names are those that have records. -/
  resolved : ∀ name, name ∈ distribution.2.viewerCertificate.aliases ↔
    ∃ record ∈ a.allOf Spec.aliasRecord?, record.2.2.name = name
  /-- All records lead to the content network, and stand in the zone. -/
  records : ∀ record ∈ a.allOf Spec.aliasRecord?, record.1 = web.name ∧
    record.2.2.target = web.own distribution.1 Attribute.domainName ∧
    record.2.2.zone = web.imported (base.reference zone.1 Attribute.self)
  under : ∀ name ∈ distribution.2.viewerCertificate.aliases, IsUnder zone.2.name name

namespace Tiers

variable {settings : Settings} {tiers : Tiers}

theorem CreatedFor.servesUnder (h : tiers.CreatedFor (.ofSettings settings))
    (hAdmissible : (Composition.ofSettings settings).Admissible) {domains : DomainList}
    (hDomains : DomainList.ofDns settings.dns = .ok domains)
    (hCert : tiers.cert = some (Cert.declared settings.scope tiers.base.handle.zone domains)) :
    tiers.assembly.ServesUnder tiers.base.topology
      (Cert.declared settings.scope tiers.base.handle.zone domains).topology tiers.web.topology
      (Base.zoneId, ⟨settings.dns.domain⟩)
      (Cert.certificateId, Cert.certificate domains
        ((Cert.bare settings.scope tiers.base.handle.zone).imported tiers.base.handle.zone.zone))
      (Web.distributionId, Web.distribution
        (Web.bare (tiers.webInputs (.ofSettings settings))) (tiers.webInputs (.ofSettings settings))
        (Cert.declared settings.scope tiers.base.handle.zone domains).handle) := by
  have hSorted := h.sorted hAdmissible
  obtain ⟨subnets, hBase⟩ := h.eq_declared_base hAdmissible.maxAzs
  have hZone := h.zone_eq hAdmissible.maxAzs
  have hInputs : (tiers.webInputs (.ofSettings settings)).certificate =
      some (Cert.declared settings.scope tiers.base.handle.zone domains).handle := by
    rw [webInputs, hCert, Option.map_some]
  have hRecords : tiers.assembly.allOf Spec.aliasRecord? =
      (Web.recordNames settings.dns).map fun named => (tiers.web.topology.name, named.1,
        Web.aliasRecord (Web.bare (tiers.webInputs (.ofSettings settings)))
          (tiers.webInputs (.ofSettings settings)) named.2) := by
    rw [hSorted.allOf_eq_web Spec.reads_aliasRecord (by decide), h.eq_declared_web]
    refine (congrArg (List.map _) (Web.allOf_aliasRecord hInputs)).trans ?_
    rw [List.map_map]
    rfl
  refine ⟨?_, ?_, ?_, ?_, rfl, DomainList.nodup_toList hDomains, ?_, ?_, ?_⟩
  · rw [hSorted.allOf_eq_base Spec.reads_hostedZone (by decide), hBase]
    exact congrArg (List.map _) Base.allOf_hostedZone
  · rw [hSorted.allOf_eq_cert Spec.reads_certificate (by decide), hCert]
    rfl
  · rw [hSorted.allOf_eq_web Spec.reads_distribution (by decide), h.eq_declared_web]
    exact congrArg (List.map _) (Web.allOf_distribution hInputs)
  · rw [h.eq_declared_web]
    rfl
  · intro name
    rw [hRecords]
    refine (DomainList.mem_toList_iff hDomains).trans ?_
    simp [Web.aliasRecord]
  · rw [hRecords]
    refine List.forall_mem_map.mpr fun named _ => ⟨rfl, ?_, ?_⟩
    · rw [h.eq_declared_web]
      rfl
    · rw [h.eq_declared_web, ← hZone]
      rfl
  · exact fun name hMem => DomainList.isUnder_of_mem hDomains hMem

/-- Without public names there is nothing in front of the service, and no certificate. -/
theorem CreatedFor.servesNone (h : tiers.CreatedFor (.ofSettings settings))
    (hAdmissible : (Composition.ofSettings settings).Admissible)
    (hMade : tiers.MadeFrom (.ofSettings settings)) (hCert : tiers.cert = none) :
    tiers.assembly.topology? (settings.scope.topologyName "Cert") = none ∧
      tiers.assembly.allOf Spec.distribution? = [] ∧
      tiers.assembly.allOf Spec.aliasRecord? = [] := by
  have hSorted := h.sorted hAdmissible
  have hInputs : (tiers.webInputs (.ofSettings settings)).certificate = none := by
    rw [webInputs, hCert, Option.map_none]
  have hKinds := Web.kind_mem_of_none hInputs
  refine ⟨List.find?_eq_none.mpr fun t hMem => ?_, ?_, ?_⟩
  · have hOther : ∀ suffix ≠ "Cert",
        settings.scope.topologyName suffix ≠ settings.scope.topologyName "Cert" :=
      fun suffix hSuffix => settings.scope.topologyName_injective.ne hSuffix
    rw [decide_eq_true_iff]
    simp only [assembly, topologies, hCert, Option.toList_none, List.map_nil, List.append_nil,
      List.mem_append, List.mem_cons, List.not_mem_nil, or_false, List.mem_map,
      Option.mem_toList] at hMem
    rcases hMem with ((rfl | rfl) | ⟨email, hEmail, rfl⟩) | rfl
    · exact hMade.base.name ▸ hOther "Base" (by decide)
    · exact hMade.data.name ▸ hOther "Data" (by decide)
    · exact (hMade.email email hEmail).name ▸ hOther "Email" (by decide)
    · exact hMade.web.name ▸ hOther "Web" (by decide)
  · rw [hSorted.allOf_eq_web Spec.reads_distribution (by decide), h.eq_declared_web]
    exact Topology.allOf_eq_nil Spec.reads_distribution hKinds (by decide)
  · rw [hSorted.allOf_eq_web Spec.reads_aliasRecord (by decide), h.eq_declared_web]
    exact Topology.allOf_eq_nil Spec.reads_aliasRecord hKinds (by decide)

end Tiers

namespace Deployment

/-- Every public name is certified, served and found, and no other name is. -/
theorem publicNames_of_accepted {d : Document} {settings : Settings}
    (h : d.validate = .ok settings) :
    ∃ deployment base web serviceId service url,
      assemble settings = .ok deployment ∧
      deployment.assembly.topology? (settings.scope.topologyName "Base") = some base ∧
      deployment.assembly.topology? (settings.scope.topologyName "Web") = some web ∧
      deployment.assembly.allOf Spec.service? = [(web.name, serviceId, service)] ∧
      deployment.publicUrl = some url ∧
      service.environment.get? Web.siteVariable = some url ∧
      ((∃ cert, deployment.assembly.topology? (settings.scope.topologyName "Cert") = some cert) ∧
        (∃ distribution,
          deployment.assembly.allOf Spec.distribution? = [(web.name, distribution)]) ∧
        deployment.assembly.allOf Spec.aliasRecord? ≠ [] ↔ d.ServesName) ∧
      (d.ServesName → ∃ cert zone certificate distribution first,
        deployment.assembly.topology? (settings.scope.topologyName "Cert") = some cert ∧
        deployment.assembly.ServesUnder base cert web zone certificate distribution ∧
        distribution.2.viewerCertificate.aliases.head? = some first ∧
        url = .literal ("https://" ++ first)) ∧
      (¬ d.ServesName →
        deployment.assembly.topology? (settings.scope.topologyName "Cert") = none ∧
        deployment.assembly.allOf Spec.distribution? = [] ∧
        deployment.assembly.allOf Spec.aliasRecord? = [] ∧
        url = .concat [.literal "http://", web.own serviceId Attribute.loadBalancerName]) := by
  have hBounded := Document.bounded_of_validate h
  obtain ⟨tiers, hTiers, hMade⟩ := Tiers.ofSettings_eq_ok hBounded
  have hCreated := Tiers.createdFor_of_ofSettings hTiers
  have hUrl := Tiers.publicUrl_ofTiers hCreated hMade
  have hServes := (Document.means_of_validate h).wantsCertificate_iff
  have hBase : tiers.assembly.topology? (settings.scope.topologyName "Base") =
      some tiers.base.topology :=
    hMade.base.name ▸ hMade.topology?_eq (by simp [Tiers.topologies])
  have hWeb : tiers.assembly.topology? (settings.scope.topologyName "Web") =
      some tiers.web.topology :=
    hMade.web.name ▸ hMade.topology?_eq (by simp [Tiers.topologies])
  refine ⟨ofTiers settings tiers, tiers.base.topology, tiers.web.topology, _, _, _,
    assemble_eq_ok hTiers hMade, hBase, hWeb, hCreated.allOf_service (hCreated.sorted
      hBounded.admissible), hUrl, Web.get?_environment _ _, ?_⟩
  rcases hCreated.cert_of_settings with ⟨hNone, hCert⟩ | ⟨hWanted, domains, hDomains, hCert⟩
  · have hRefused : ¬ d.ServesName := fun hName => by
      rw [hServes.mpr hName] at hNone
      cases hNone
    obtain ⟨hAbsent, hDistributions, hRecords⟩ :=
      hCreated.servesNone hBounded.admissible hMade hCert
    refine ⟨iff_of_false ?_ hRefused, fun hName => absurd hName hRefused, fun _ =>
      ⟨hAbsent, hDistributions, hRecords, ?_⟩⟩
    · rintro ⟨⟨cert, hFound⟩, -⟩
      cases hAbsent.symm.trans hFound
    · rw [hCert, hCreated.eq_declared_web]
      rfl
  · have hName : d.ServesName := hServes.mp hWanted
    have hServed := hCreated.servesUnder hBounded.admissible hDomains hCert
    have hFound : tiers.assembly.topology? (settings.scope.topologyName "Cert") =
        some (Cert.declared settings.scope tiers.base.handle.zone domains).topology :=
      (hMade.cert _ hCert).name ▸ hMade.topology?_eq (by simp [Tiers.topologies, hCert])
    obtain ⟨record, hRecord, -⟩ := (hServed.resolved domains.primary).mp List.mem_cons_self
    refine ⟨iff_of_true ⟨⟨_, hFound⟩, ⟨_, hServed.distributions⟩, List.ne_nil_of_mem hRecord⟩ hName,
      fun _ => ⟨_, _, _, _, domains.primary, hFound, hServed, rfl, ?_⟩,
      fun hRefused => absurd hName hRefused⟩
    rw [hCert]
    rfl

/-- A document without public names, with its service reached through the load balancer. -/
def privateDocument : Document :=
  { siteDocument with dnsDomainHost := some " ", dnsDomainEnableRoot := none }

def privateSettings : Settings := { siteSettings with dns := ⟨"example.com", none, false⟩ }

theorem publicNames_siteDocument :
    (siteDocument.validate = .ok siteSettings ∧
      ∃ deployment base cert web zone certificate distribution,
        assemble siteSettings = .ok deployment ∧
        deployment.assembly.ServesUnder base cert web zone certificate distribution) ∧
    privateDocument.validate = .ok privateSettings ∧
      ∃ deployment, assemble privateSettings = .ok deployment ∧
        deployment.assembly.allOf Spec.distribution? = [] ∧
        deployment.assembly.allOf Spec.aliasRecord? = [] := by
  have hSite : siteDocument.validate = .ok siteSettings := by decide +kernel
  have hPrivate : privateDocument.validate = .ok privateSettings := by decide +kernel
  refine ⟨⟨hSite, ?_⟩, hPrivate, ?_⟩
  · obtain ⟨deployment, base, web, _, _, _, hAssembled, -, -, -, -, -, -, hServes, -⟩ :=
      publicNames_of_accepted hSite
    obtain ⟨cert, zone, certificate, distribution, _, -, hServed, -⟩ := hServes (.inr rfl)
    exact ⟨deployment, base, cert, web, zone, certificate, distribution, hAssembled, hServed⟩
  · obtain ⟨deployment, _, _, _, _, _, hAssembled, -, -, -, -, -, -, -, hServesNone⟩ :=
      publicNames_of_accepted hPrivate
    have hNone : ¬ privateDocument.ServesName := by
      unfold Document.ServesName
      decide +kernel
    obtain ⟨-, hDistributions, hRecords, -⟩ := hServesNone hNone
    exact ⟨deployment, hAssembled, hDistributions, hRecords⟩

end Deployment

end Blueprint
