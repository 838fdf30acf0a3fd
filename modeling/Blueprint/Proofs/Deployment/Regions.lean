import Blueprint.Proofs.Assembly.Marks
import Blueprint.Proofs.Deployment.PublicNames

/-! Regions of a deployment. The content network asks for its certificate in one region, and that is
the only reason to cross regions: the certificate is validated through the zone, and the content
network uses it. All other references stay in the region of the deployment, those of the web tier to
the zone among them. -/

namespace Blueprint

open Template

/-- Regions are crossed twice, for the zone that a certificate is validated through and for the
certificate itself, and the templates are prepared for just that. -/
structure Assembly.CrossesForCertificate (a : Assembly) (region : Region)
    (base cert web : Topology) (zone : ResourceId × HostedZone)
    (certificate : ResourceId × Certificate) : Prop where
  zones : a.allOf Spec.hostedZone? = [(base.name, zone)]
  certificates : a.allOf Spec.certificate? = [(cert.name, certificate)]
  references : a.markedReferences =
    [(cert.name, base.markedReference zone.1), (web.name, cert.markedReference certificate.1)]
  parameters : a.parameterSections =
    [(cert.name, .obj [parameterEntry (base.markedReference zone.1)]),
      (web.name, .obj [parameterEntry (cert.markedReference certificate.1)])]
  writers : a.exportWriters =
    [(base.name, writerFor .cdnHome (base.markedReference zone.1)),
      (cert.name, writerFor region (cert.markedReference certificate.1))]

namespace Tiers

open Blueprint.Topology

/-- What is used in other regions of the tier with a suffix: of the base tier the zone, and of the
certificate tier the certificate. -/
def usesAbroad (region : Region) (base cert : Topology) (suffix : String) :
    List (Region × Reference) :=
  (if "Base" = suffix then [(.cdnHome, base.markedReference Base.zoneId)] else []) ++
    if "Cert" = suffix then [(region, cert.markedReference Cert.certificateId)] else []

theorem length_usesAbroad_le (region : Region) (base cert : Topology) (suffix : String) :
    (usesAbroad region base cert suffix).length ≤ 1 := by
  unfold usesAbroad
  by_cases hBase : "Base" = suffix
  · subst hBase
    simp
  · rw [if_neg hBase]
    split <;> simp

variable {settings : Settings} {tiers : Tiers}

section

variable (h : tiers.MadeFrom (.ofSettings settings))

include h

/-- The certificate tier is in a region of its own. -/
theorem MadeFrom.region_eq : ∀ t ∈ tiers.topologies, t.region =
    if t.name = settings.scope.topologyName "Cert" then .cdnHome else settings.scope.region := by
  have hOther : ∀ {t : Topology} {suffix : String}, suffix ≠ "Cert" →
      t.name = settings.scope.topologyName suffix → t.region = settings.scope.region →
        t.region = if t.name = settings.scope.topologyName "Cert" then .cdnHome
          else settings.scope.region := by
    intro t suffix hSuffix hName hRegion
    rw [hName, if_neg (settings.scope.topologyName_injective.ne hSuffix), hRegion]
  refine forall_mem_topologies.mpr ⟨?_, ?_, fun email hEmail => ?_, fun cert hCert => ?_, ?_⟩
  · exact hOther (by decide) h.base.name h.base.region
  · exact hOther (by decide) h.data.name h.data.region
  · exact hOther (by decide) (h.email email hEmail).name (h.email email hEmail).region
  · exact (h.cert cert hCert).region.trans (if_pos (h.cert cert hCert).name).symm
  · exact hOther (by decide) h.web.name h.web.region

theorem MadeFrom.name_ne {p t : Topology} (hSupplies : tiers.Supplies p t) : p.name ≠ t.name := by
  have hOther : ∀ {suffix suffix'}, suffix ≠ suffix' →
      settings.scope.topologyName suffix ≠ settings.scope.topologyName suffix' :=
    fun hSuffix => settings.scope.topologyName_injective.ne hSuffix
  cases hSupplies with
  | baseData => exact h.base.name ▸ h.data.name ▸ hOther (by decide)
  | baseCert hCert => exact h.base.name ▸ (h.cert _ hCert).name ▸ hOther (by decide)
  | baseWeb => exact h.base.name ▸ h.web.name ▸ hOther (by decide)
  | dataWeb => exact h.data.name ▸ h.web.name ▸ hOther (by decide)
  | emailWeb hEmail => exact (h.email _ hEmail).name ▸ h.web.name ▸ hOther (by decide)
  | certWeb hCert => exact (h.cert _ hCert).name ▸ h.web.name ▸ hOther (by decide)

/-- A topology marks no reference to a resource of its own. -/
theorem MadeFrom.foreign_of_marked {t : Topology} (hMem : t ∈ tiers.topologies) :
    ∀ r ∈ t.marked, r.topology ≠ t.name := by
  intro r hMarked
  obtain ⟨hReference, hTrue⟩ := List.mem_filter.mp hMarked
  obtain ⟨imports, hDeclares, hOffered⟩ := h.declares hMem
  rcases hDeclares.draws (mem_references_iff.mp hReference) with
    ⟨id, -, attr, rfl⟩ | ⟨i, hImport, rfl⟩
  · cases hTrue
  · obtain ⟨p, -, hOffers, hSupplies⟩ := hOffered i hImport
    have hName := h.name_ne hSupplies
    rw [hOffers.localized hName]
    exact hOffers.topology ▸ hName

/-! ### What each tier marks -/

theorem MadeFrom.marked_base : tiers.base.topology.marked = [] :=
  h.base.declares.marked_eq_nil (by simp)

theorem MadeFrom.marked_email {email : Tier CredentialHandle} (hEmail : email ∈ tiers.email) :
    email.topology.marked = [] :=
  (h.email email hEmail).declares.marked_eq_nil (by simp)

theorem MadeFrom.marked_data : tiers.data.topology.marked = [] :=
  h.data.declares.marked_eq_nil fun _ hImport =>
    (h.offers_data hImport).unmarked (h.name_ne .baseData)
      (h.base.region.trans h.data.region.symm)

/-- What comes of marks comes from the certificate tier and the web tier. -/
theorem MadeFrom.flatMap_of_marked {β : Type} {f : Topology → List β}
    (hNone : ∀ t, t.marked = [] → f t = []) {cert : Tier CertificateHandle}
    (hCert : tiers.cert = some cert) :
    tiers.assembly.topologies.flatMap f = f cert.topology ++ f tiers.web.topology := by
  have hTopologies : tiers.assembly.topologies = tiers.topologies := rfl
  have hEmail : (tiers.email.toList.flatMap fun email => f email.topology) = [] :=
    List.flatMap_eq_nil_iff.mpr fun email hMem =>
      hNone _ (h.marked_email (Option.mem_toList.mp hMem))
  rw [hTopologies, flatMap_topologies, hNone _ h.marked_base, hNone _ h.marked_data, hEmail, hCert,
    Option.toList_some, List.flatMap_singleton, List.nil_append, List.nil_append, List.nil_append]

end

section

variable (h : tiers.CreatedFor (.ofSettings settings))
  (hMade : tiers.MadeFrom (.ofSettings settings))

include h hMade

/-- The certificate tier takes the zone, which is elsewhere unless the deployment is at home. -/
theorem CreatedFor.marked_cert (hMaxAzs : settings.maxAzs ≤ Bounds.nat32)
    {cert : Tier CertificateHandle} (hCert : tiers.cert = some cert) :
    cert.topology.marked =
      if settings.scope.region = .cdnHome then []
      else [tiers.base.topology.markedReference Base.zoneId] := by
  have hZone := hMade.base.zone.filter_localized (hMade.name_ne (.baseCert hCert))
  rw [hMade.base.region, (hMade.cert _ hCert).region] at hZone
  obtain ⟨domains, rfl⟩ := h.exists_eq_declared_cert hCert
  rw [markedReference, ← h.zone_eq hMaxAzs]
  exact (Cert.marked_declared _ _ domains).trans hZone

/-- The service stays in its region, and so do the records of the content network. -/
theorem CreatedFor.marked_web :
    tiers.web.topology.marked =
      (tiers.cert.toList.map fun cert =>
        tiers.web.topology.localized cert.handle.certificate).filter Reference.crossRegion := by
  have hLocalized : ∀ i, (Web.bare (tiers.webInputs (.ofSettings settings))).localized i =
      tiers.web.topology.localized i := by
    intro i
    rw [h.eq_declared_web]
    rfl
  have hWeb : tiers.web.topology.region = settings.scope.region := hMade.web.region
  have hNear : ∀ i ∈ Web.innerImports (tiers.webInputs (.ofSettings settings)),
      (tiers.web.topology.localized i).crossRegion = false := by
    intro i hImport
    obtain ⟨p, hProducer, hOffers, hSupplies⟩ := hMade.offers_inner hImport
    refine hOffers.unmarked (hMade.name_ne hSupplies) ?_
    rcases hProducer with rfl | rfl | ⟨email, hEmail, rfl⟩
    · exact hMade.base.region.trans hWeb.symm
    · exact hMade.data.region.trans hWeb.symm
    · exact (hMade.email email hEmail).region.trans hWeb.symm
  have hZone : (tiers.web.topology.localized tiers.base.handle.zone.zone).crossRegion = false :=
    hMade.base.zone.unmarked (hMade.name_ne .baseWeb) (hMade.base.region.trans hWeb.symm)
  have hMarked := congrArg (fun web => web.topology.marked) h.eq_declared_web
  refine hMarked.trans ((Web.marked_declared (fun i hImport => ?_) ?_).trans ?_)
  · rw [hLocalized]
    exact hNear i hImport
  · rw [hLocalized]
    exact hZone
  · simp only [hLocalized]
    rw [webInputs]
    cases tiers.cert <;> rfl

/-- The content network takes the certificate, which is elsewhere unless the deployment is at
home. -/
theorem CreatedFor.marked_web_of_some {cert : Tier CertificateHandle}
    (hCert : tiers.cert = some cert) :
    tiers.web.topology.marked =
      if settings.scope.region = .cdnHome then []
      else [cert.topology.markedReference Cert.certificateId] := by
  have hCreated := hMade.cert _ hCert
  have hWeb : tiers.web.topology.region = settings.scope.region := hMade.web.region
  have hCertificate := hCreated.certificate.filter_localized (hMade.name_ne (.certWeb hCert))
  rw [hCreated.region, hWeb] at hCertificate
  rw [h.marked_web hMade, hCert]
  refine hCertificate.trans ((if_congr eq_comm rfl rfl).trans ?_)
  obtain ⟨domains, rfl⟩ := h.exists_eq_declared_cert hCert
  rfl

/-! ### What is rendered for other regions -/

section

variable (hMaxAzs : settings.maxAzs ≤ Bounds.nat32) (hAway : settings.scope.region ≠ .cdnHome)
  {cert : Tier CertificateHandle} (hCert : tiers.cert = some cert)

include hMaxAzs hAway hCert

/-- In a deployment that is not at home, both are elsewhere. -/
theorem CreatedFor.marked_away :
    cert.topology.marked = [tiers.base.topology.markedReference Base.zoneId] ∧
      tiers.web.topology.marked = [cert.topology.markedReference Cert.certificateId] := by
  rw [h.marked_cert hMade hMaxAzs hCert, h.marked_web_of_some hMade hCert, if_neg hAway,
    if_neg hAway]
  exact ⟨rfl, rfl⟩

theorem CreatedFor.markedReferences_eq : tiers.assembly.markedReferences =
    [(cert.topology.name, tiers.base.topology.markedReference Base.zoneId),
      (tiers.web.topology.name, cert.topology.markedReference Cert.certificateId)] := by
  obtain ⟨hZone, hCertificate⟩ := h.marked_away hMade hMaxAzs hAway hCert
  rw [Assembly.markedReferences, hMade.flatMap_of_marked (fun t hNone => by rw [hNone]; rfl) hCert,
    hZone, hCertificate]
  rfl

theorem CreatedFor.parameterSections_eq : tiers.assembly.parameterSections =
    [(cert.topology.name, .obj [parameterEntry (tiers.base.topology.markedReference Base.zoneId)]),
      (tiers.web.topology.name,
        .obj [parameterEntry (cert.topology.markedReference Cert.certificateId)])] := by
  obtain ⟨hZone, hCertificate⟩ := h.marked_away hMade hMaxAzs hAway hCert
  have hFromBase := hMade.name_ne (.baseCert hCert)
  have hFromCert := hMade.name_ne (.certWeb hCert)
  rw [Assembly.parameterSections, hMade.flatMap_of_marked (fun t hNone => by
      rw [Assembly.template, member?_parameters_of_nil _ hNone]; rfl) hCert, Assembly.template,
    Assembly.template, member?_parameters_of_singleton _ hZone hFromBase,
    member?_parameters_of_singleton _ hCertificate hFromCert]
  rfl

theorem CreatedFor.markedUses_eq : tiers.assembly.markedUses =
    [(.cdnHome, tiers.base.topology.markedReference Base.zoneId),
      (settings.scope.region, cert.topology.markedReference Cert.certificateId)] := by
  obtain ⟨hZone, hCertificate⟩ := h.marked_away hMade hMaxAzs hAway hCert
  rw [Assembly.markedUses, hMade.flatMap_of_marked (fun t hNone => by rw [hNone]; rfl) hCert,
    hZone, hCertificate, (hMade.cert _ hCert).region, hMade.web.region]
  rfl

theorem CreatedFor.filter_markedUses {t : Topology} {suffix : String}
    (hName : t.name = settings.scope.topologyName suffix) :
    (tiers.assembly.markedUses.filter fun use => use.2.topology = t.name) =
      usesAbroad settings.scope.region tiers.base.topology cert.topology suffix := by
  have hZone : (tiers.base.topology.markedReference Base.zoneId).topology =
      settings.scope.topologyName "Base" := hMade.base.name
  have hCertificate : (cert.topology.markedReference Cert.certificateId).topology =
      settings.scope.topologyName "Cert" := (hMade.cert _ hCert).name
  rw [h.markedUses_eq hMade hMaxAzs hAway hCert, List.filter_cons, List.filter_singleton, hZone,
    hCertificate, hName]
  simp only [settings.scope.topologyName_injective.eq_iff, decide_eq_true_eq, Bool.cond_decide]
  unfold usesAbroad
  split <;> rfl

/-- The base tier writes for the certificate tier, and that one for the web tier. -/
theorem CreatedFor.exportWriters_eq (hNamed : tiers.assembly.NamedApart) :
    tiers.assembly.exportWriters =
      [(tiers.base.topology.name,
          writerFor .cdnHome (tiers.base.topology.markedReference Base.zoneId)),
        (cert.topology.name,
          writerFor settings.scope.region (cert.topology.markedReference Cert.certificateId))] := by
  have hWriters : ∀ {t : Topology} {suffix : String}, t ∈ tiers.topologies →
      t.name = settings.scope.topologyName suffix →
        ((entriesIn "Resources" (tiers.assembly.template t)).filter fun entry => IsWriter entry) =
          (usesAbroad settings.scope.region tiers.base.topology cert.topology suffix).map
            fun use => writerFor use.1 use.2 :=
    fun hMem hName => Assembly.isWriter_eq_map (fun t hMem => hMade.foreign_of_marked hMem)
      hMade.validate_assembly hNamed hMem (h.filter_markedUses hMade hMaxAzs hAway hCert hName)
      (length_usesAbroad_le _ _ _ _)
  have hEmail : (tiers.email.toList.flatMap fun email =>
      ((entriesIn "Resources" (tiers.assembly.template email.topology)).filter
        fun entry => IsWriter entry).map fun entry => (email.topology.name, entry)) = [] := by
    refine List.flatMap_eq_nil_iff.mpr fun email hMem => ?_
    have hTier := Option.mem_toList.mp hMem
    rw [hWriters (by simp [topologies, hTier]) (hMade.email email hTier).name]
    rfl
  have hTopologies : tiers.assembly.topologies = tiers.topologies := rfl
  rw [Assembly.exportWriters, hTopologies, flatMap_topologies, hEmail, hCert, Option.toList_some,
    List.flatMap_singleton, hWriters (by simp [topologies]) hMade.base.name,
    hWriters (by simp [topologies]) hMade.data.name,
    hWriters (by simp [topologies, hCert]) (hMade.cert _ hCert).name,
    hWriters (by simp [topologies]) hMade.web.name]
  rfl

end

/-- A certificate in another region is all that regions are crossed for. -/
theorem CreatedFor.crossesForCertificate (hAdmissible : (Composition.ofSettings settings).Admissible)
    (hNamed : tiers.assembly.NamedApart) (hAway : settings.scope.region ≠ .cdnHome)
    {domains : DomainList} (hDomains : DomainList.ofDns settings.dns = .ok domains)
    (hCert : tiers.cert = some (Cert.declared settings.scope tiers.base.handle.zone domains)) :
    tiers.assembly.CrossesForCertificate settings.scope.region tiers.base.topology
      (Cert.declared settings.scope tiers.base.handle.zone domains).topology tiers.web.topology
      (Base.zoneId, ⟨settings.dns.domain⟩)
      (Cert.certificateId, Cert.certificate domains
        ((Cert.bare settings.scope tiers.base.handle.zone).imported
          tiers.base.handle.zone.zone)) := by
  have hServed := h.servesUnder hAdmissible hDomains hCert
  have hMaxAzs : settings.maxAzs ≤ Bounds.nat32 := hAdmissible.maxAzs
  exact
    { zones := hServed.zones
      certificates := hServed.certificates
      references := h.markedReferences_eq hMade hMaxAzs hAway hCert
      parameters := h.parameterSections_eq hMade hMaxAzs hAway hCert
      writers := h.exportWriters_eq hMade hMaxAzs hAway hCert hNamed }

/-- Nothing is marked without a certificate, nor with one where it is needed anyway. -/
theorem CreatedFor.marked_eq_nil (hMaxAzs : settings.maxAzs ≤ Bounds.nat32)
    (hNear : tiers.cert.isSome = true → settings.scope.region = .cdnHome) :
    ∀ t ∈ tiers.topologies, t.marked = [] := by
  refine forall_mem_topologies.mpr ⟨hMade.marked_base, hMade.marked_data,
    fun email hEmail => hMade.marked_email hEmail, fun cert hCert => ?_, ?_⟩
  · rw [h.marked_cert hMade hMaxAzs hCert, if_pos (hNear (by rw [hCert]; rfl))]
  · cases hCert : tiers.cert with
    | none =>
        rw [h.marked_web hMade, hCert]
        rfl
    | some cert => rw [h.marked_web_of_some hMade hCert, if_pos (hNear (by rw [hCert]; rfl))]

end

end Tiers

namespace Deployment

/-- Regions are crossed for a certificate or not at all. The certificate tier alone is in the region
that the content network asks for; if that is not the region of the deployment, the zone and the
certificate are all that is taken from one region to the other. -/
theorem regions_of_accepted {d : Document} {settings : Settings} (h : d.validate = .ok settings) :
    ∃ deployment, assemble settings = .ok deployment ∧
      (∀ t ∈ deployment.assembly.topologies, t.region =
        if t.name = settings.scope.topologyName "Cert" then .cdnHome else settings.scope.region) ∧
      (settings.dns.wantsCertificate = true ∧ settings.scope.region ≠ .cdnHome →
        ∃ base cert web zone certificate,
          deployment.assembly.topology? (settings.scope.topologyName "Base") = some base ∧
          deployment.assembly.topology? (settings.scope.topologyName "Cert") = some cert ∧
          deployment.assembly.topology? (settings.scope.topologyName "Web") = some web ∧
          deployment.assembly.CrossesForCertificate settings.scope.region base cert web zone
            certificate) ∧
      (¬ (settings.dns.wantsCertificate = true ∧ settings.scope.region ≠ .cdnHome) →
        deployment.assembly.CrossesNowhere) := by
  have hBounded := Document.bounded_of_validate h
  obtain ⟨tiers, hTiers, hMade⟩ := Tiers.ofSettings_eq_ok hBounded
  have hCreated := Tiers.createdFor_of_ofSettings hTiers
  have hNamed := hMade.namedApart hBounded.name
  have hMaxAzs : settings.maxAzs ≤ Bounds.nat32 := hBounded.admissible.maxAzs
  have hFound : ∀ {t : Topology} {suffix : String}, t ∈ tiers.topologies →
      t.name = settings.scope.topologyName suffix →
        tiers.assembly.topology? (settings.scope.topologyName suffix) = some t :=
    fun hMem hName => hName ▸ hMade.topology?_eq hMem
  refine ⟨ofTiers settings tiers, assemble_eq_ok hTiers hMade, hMade.region_eq, ?_, ?_⟩
  · rintro ⟨hWanted, hAway⟩
    rcases hCreated.cert_of_settings with ⟨hRefused, -⟩ | ⟨-, domains, hDomains, hCert⟩
    · cases hWanted.symm.trans hRefused
    · exact ⟨_, _, _, _, _, hFound (by simp [Tiers.topologies]) hMade.base.name,
        hFound (by simp [Tiers.topologies, hCert]) (hMade.cert _ hCert).name,
        hFound (by simp [Tiers.topologies]) hMade.web.name,
        hCreated.crossesForCertificate hMade hBounded.admissible hNamed hAway hDomains hCert⟩
  · intro hNear
    refine Assembly.crossesNowhere_of_unmarked hMade.validate_assembly hNamed
      (hCreated.marked_eq_nil hMade hMaxAzs fun hSome => ?_)
    rcases hCreated.cert_of_settings with ⟨-, hNone⟩ | ⟨hWanted, -⟩
    · rw [hNone] at hSome
      cases hSome
    · by_contra hAway
      exact hNear ⟨hWanted, hAway⟩

theorem regions_siteDocument :
    (siteDocument.validate = .ok siteSettings ∧
      ∃ deployment base cert web zone certificate, assemble siteSettings = .ok deployment ∧
        deployment.assembly.CrossesForCertificate ⟨"eu-west-1"⟩ base cert web zone certificate) ∧
    privateDocument.validate = .ok privateSettings ∧
      ∃ deployment, assemble privateSettings = .ok deployment ∧
        deployment.assembly.CrossesNowhere := by
  have hSite : siteDocument.validate = .ok siteSettings := by decide +kernel
  have hPrivate : privateDocument.validate = .ok privateSettings := by decide +kernel
  obtain ⟨site, hSiteAssembled, -, hCrosses, -⟩ := regions_of_accepted hSite
  obtain ⟨base, cert, web, zone, certificate, -, -, -, hCertificate⟩ :=
    hCrosses ⟨rfl, by decide⟩
  obtain ⟨hidden, hHiddenAssembled, -, -, hNowhere⟩ := regions_of_accepted hPrivate
  exact ⟨⟨hSite, site, base, cert, web, zone, certificate, hSiteAssembled, hCertificate⟩, hPrivate,
    hidden, hHiddenAssembled, hNowhere (fun hWanted => by cases hWanted.1)⟩

end Deployment

end Blueprint
