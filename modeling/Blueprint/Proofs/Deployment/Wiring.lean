import Blueprint.Proofs.Assembly.Crossing
import Blueprint.Proofs.Assembly.NameClash
import Blueprint.Proofs.Deployment.Composition
import Blueprint.Proofs.Settings.Bounds

/-! The deployment of any accepted document. Its assembly passes the check, and the names in it are
apart, so its templates are wired to one another without a gap. -/

namespace Blueprint

namespace Intrinsic

open Blueprint.Topology

/-- The attributes that are handed on are told by their last letters, whatever stands before. -/
theorem eq_of_append_attr_eq {r r' : Reference} (hAttr : r.attr ∈ offeredAttributes)
    (hAttr' : r'.attr ∈ offeredAttributes)
    (h : r.resource.text ++ alphanumeric r.attr = r'.resource.text ++ alphanumeric r'.attr) :
    r.resource = r'.resource ∧ r.attr = r'.attr := by
  have hKept : ∀ attr ∈ offeredAttributes, alphanumeric attr = attr ∧ attr.toList ≠ [] := by
    decide
  have hLast : ∀ attr ∈ offeredAttributes, ∀ attr' ∈ offeredAttributes,
      attr.toList.getLast? = attr'.toList.getLast? → attr = attr' := by decide
  rw [(hKept _ hAttr).1, (hKept _ hAttr').1] at h
  have hEnds := congrArg (fun text => text.toList.getLast?) h
  rw [String.toList_append, String.toList_append,
    List.getLast?_append_of_ne_nil _ (hKept _ hAttr).2,
    List.getLast?_append_of_ne_nil _ (hKept _ hAttr').2] at hEnds
  have hSame := hLast _ hAttr _ hAttr' hEnds
  rw [hSame, String.append_left_inj] at h
  exact ⟨ResourceId.text_injective h, hSame⟩

theorem eq_of_exportName_eq {r r' : Reference} (hAttr : r.attr ∈ offeredAttributes)
    (hAttr' : r'.attr ∈ offeredAttributes) (h : exportName r = exportName r') :
    r.resource = r'.resource ∧ r.attr = r'.attr := by
  simp only [exportName, String.append_assoc, String.append_right_inj] at h
  exact eq_of_append_attr_eq hAttr hAttr' h

theorem eq_of_parameterName_eq {r r' : Reference} (hTopology : r.topology = r'.topology)
    (hAttr : r.attr ∈ offeredAttributes) (hAttr' : r'.attr ∈ offeredAttributes)
    (h : parameterName r = parameterName r') : r.resource = r'.resource ∧ r.attr = r'.attr := by
  simp only [parameterName, hTopology, String.append_assoc, String.append_right_inj] at h
  exact eq_of_append_attr_eq hAttr hAttr' h

end Intrinsic

theorem Scope.topologyName_injective (scope : Scope) : Function.Injective scope.topologyName :=
  fun _ _ h => (String.append_right_inj scope.name).mp h

/-- Bounded settings are enough for all tiers. -/
theorem Settings.Bounded.admissible {settings : Settings} (h : settings.Bounded) :
    (Composition.ofSettings settings).Admissible where
  maxAzs := Nat.le_trans h.maxAzs.2 (by decide)
  replicas := h.replicas.2
  certDns := by
    intro dns hDns
    obtain ⟨hWanted, hSame⟩ := Option.ite_none_right_eq_some.mp hDns
    exact Option.some.inj hSame ▸ hWanted

namespace Tiers

open Blueprint.Topology

variable {settings : Settings} {tiers : Tiers}

theorem ofSettings_eq_ok (h : settings.Bounded) :
    ∃ tiers, ofSettings settings = .ok tiers ∧ tiers.MadeFrom (.ofSettings settings) := by
  rw [ofSettings_eq_create]
  exact create_eq_ok h.admissible

/-- The suffixes of the names of topologies. -/
def suffixes : List String := ["Base", "Data", "Email", "Cert", "Web"]

section

variable (h : tiers.MadeFrom (.ofSettings settings))

include h

theorem MadeFrom.validate_assembly : tiers.assembly.validate = .ok () := h.validate_eq_ok rfl

theorem MadeFrom.isAlnum_name (hName : IsAlnum settings.scope.name) {t : Topology}
    (hMem : t ∈ tiers.topologies) : IsAlnum t.name := by
  have hSuffixes : ∀ suffix ∈ suffixes, IsAlnum suffix := by decide
  have hNames : t.name ∈ suffixes.map settings.scope.topologyName :=
    h.names_sublist.subset (List.mem_map.mpr ⟨t, hMem, rfl⟩)
  obtain ⟨suffix, hSuffix, hSame⟩ := List.mem_map.mp hNames
  exact hSame ▸ hName.append (hSuffixes suffix hSuffix)

theorem MadeFrom.count_exportNames (hName : IsAlnum settings.scope.name) {t : Topology}
    (hMem : t ∈ tiers.topologies) : ∀ name ∈ t.exportNames, name.toList.count ':' ≤ 1 := by
  intro name hExport
  have hNames := h.exportNames_sublist.subset (List.mem_flatMap.mpr ⟨t, hMem, hExport⟩)
  exact forall_between (Data.count_exportNames hName) (by decide) name hNames

/-- If what one topology takes from another one crosses regions, one of the two is the certificate
tier, and the other one is in the region of the deployment. -/
theorem MadeFrom.crossing {p t : Topology} (hSupplies : tiers.Supplies p t)
    (hOther : p.region ≠ t.region) : settings.scope.region ≠ .cdnHome ∧
      (p.name = settings.scope.topologyName "Cert" ∧ t.region = settings.scope.region ∨
        p.name = settings.scope.topologyName "Base" ∧ t.region = .cdnHome) := by
  have hBase : tiers.base.topology.region = settings.scope.region := h.base.region
  have hData : tiers.data.topology.region = settings.scope.region := h.data.region
  have hWeb : tiers.web.topology.region = settings.scope.region := h.web.region
  cases hSupplies with
  | baseData => exact absurd (hBase.trans hData.symm) hOther
  | baseWeb => exact absurd (hBase.trans hWeb.symm) hOther
  | dataWeb => exact absurd (hData.trans hWeb.symm) hOther
  | emailWeb hEmail => exact absurd ((h.email _ hEmail).region.trans hWeb.symm) hOther
  | baseCert hCert =>
      rw [hBase, (h.cert _ hCert).region] at hOther
      exact ⟨hOther, .inr ⟨h.base.name, (h.cert _ hCert).region⟩⟩
  | certWeb hCert =>
      rw [(h.cert _ hCert).region, hWeb] at hOther
      exact ⟨hOther.symm, .inl ⟨(h.cert _ hCert).name, hWeb⟩⟩

/-- What a topology takes from another one was offered by one that may supply it. -/
theorem MadeFrom.offered {t : Topology} (hMem : t ∈ tiers.topologies) {r : Reference}
    (hForeign : r ∈ t.foreignReferences) :
    ∃ p ∈ tiers.topologies, ∃ i, p.Offers i ∧ tiers.Supplies p t ∧
      r = { i with crossRegion := i.region ≠ t.region } := by
  obtain ⟨hEmbedded, hOther⟩ := mem_foreignReferences_iff.mp hForeign
  obtain ⟨imports, hDeclares, hOffered⟩ := h.declares hMem
  obtain ⟨i, hImport, -, hLocalized⟩ := hDeclares.eq_localized hEmbedded hOther
  obtain ⟨p, hProducer, hOffers, hSupplies⟩ := hOffered i hImport
  exact ⟨p, hProducer, i, hOffers, hSupplies, hLocalized⟩

theorem MadeFrom.offered_of_use {region : Region} {r : Reference}
    (hUse : (region, r) ∈ tiers.assembly.uses) :
    ∃ p t i, p.Offers i ∧ tiers.Supplies p t ∧ t.region = region ∧
      r = { i with crossRegion := i.region ≠ t.region } := by
  obtain ⟨t, hMem, hRegion, hEmbedded, hOther⟩ := Assembly.mem_uses_iff.mp hUse
  obtain ⟨p, -, i, hOffers, hSupplies, hLocalized⟩ :=
    h.offered hMem (mem_foreignReferences_iff.mpr ⟨hEmbedded, hOther⟩)
  exact ⟨p, t, i, hOffers, hSupplies, hRegion, hLocalized⟩

theorem MadeFrom.attr_of_use {region : Region} {r : Reference}
    (hUse : (region, r) ∈ tiers.assembly.uses) :
    r.attr ∈ offeredAttributes := by
  obtain ⟨p, t, i, hOffers, -, -, rfl⟩ := h.offered_of_use hUse
  exact hOffers.attr

/-- Only the certificate tier and one of the others can be in different regions. -/
theorem MadeFrom.crossing_of_use {region : Region} {r : Reference}
    (hUse : (region, r) ∈ tiers.assembly.uses) (hMarked : r.crossRegion = true) :
    settings.scope.region ≠ .cdnHome ∧
      (r.topology = settings.scope.topologyName "Cert" ∧ region = settings.scope.region ∨
        r.topology = settings.scope.topologyName "Base" ∧ region = .cdnHome) := by
  obtain ⟨p, t, i, hOffers, hSupplies, rfl, rfl⟩ := h.offered_of_use hUse
  have hOther : i.region ≠ t.region := of_decide_eq_true hMarked
  rw [hOffers.region] at hOther
  obtain ⟨hAway, hCrossing⟩ := h.crossing hSupplies hOther
  rw [← hOffers.topology] at hCrossing
  exact ⟨hAway, hCrossing⟩

/-- What crosses regions from one topology goes to one region, and what crosses into one region
comes from one topology. -/
theorem MadeFrom.topology_eq_iff_of_uses {region region' : Region} {r r' : Reference}
    (hUse : (region, r) ∈ tiers.assembly.uses) (hUse' : (region', r') ∈ tiers.assembly.uses)
    (hMarked : r.crossRegion = true) (hMarked' : r'.crossRegion = true) :
    r.topology = r'.topology ↔ region = region' := by
  obtain ⟨hAway, hCrossing⟩ := h.crossing_of_use hUse hMarked
  obtain ⟨-, hCrossing'⟩ := h.crossing_of_use hUse' hMarked'
  have hNames : settings.scope.topologyName "Cert" ≠ settings.scope.topologyName "Base" :=
    settings.scope.topologyName_injective.ne (by decide)
  rcases hCrossing with ⟨hName, hRegion⟩ | ⟨hName, hRegion⟩ <;>
    rcases hCrossing' with ⟨hName', hRegion'⟩ | ⟨hName', hRegion'⟩ <;>
    rw [hName, hName', hRegion, hRegion']
  · simp
  · exact iff_of_false hNames hAway
  · exact iff_of_false hNames.symm hAway.symm
  · simp

/-- What is taken across regions is taken from a topology that gives leave for it. -/
theorem MadeFrom.publishes {p t : Topology} (hSupplies : tiers.Supplies p t)
    (hOther : p.region ≠ t.region) : p.crossRegion = true := by
  cases hSupplies with
  | baseData | baseCert | baseWeb => exact h.base.crossRegion
  | dataWeb => exact absurd (h.data.region.trans h.web.region.symm) hOther
  | emailWeb hEmail => exact absurd ((h.email _ hEmail).region.trans h.web.region.symm) hOther
  | certWeb hCert => exact (h.cert _ hCert).crossRegion

theorem MadeFrom.treatsCrossings : tiers.assembly.TreatsCrossings := by
  intro p t r hCrosses
  have hWired := h.wellWired rfl
  obtain ⟨q, hMem, i, hOffers, hSupplies, rfl⟩ := h.offered hCrosses.consumer hCrosses.foreign
  obtain rfl : q = p := hWired.eq_of_name_eq hMem hCrosses.producer
    (hOffers.topology.symm.trans hCrosses.name.symm)
  refine (hCrosses.treatsAsCrossing_iff hWired).mpr
    ⟨h.publishes hSupplies hCrosses.apart, fun hRegion => ?_⟩
  exact absurd (hOffers.region.symm.trans hRegion) hCrosses.apart

theorem MadeFrom.namedApart (hName : IsAlnum settings.scope.name) : tiers.assembly.NamedApart where
  topologies := fun t hMem => h.isAlnum_name hName hMem
  mapKeys := by
    intro t hMem resource hResource
    obtain ⟨imports, hDeclares, -⟩ := h.declares hMem
    exact (hDeclares.resources resource hResource).mapKeys
  resourceNames := by
    intro t hMem resource hResource
    obtain ⟨imports, hDeclares, -⟩ := h.declares hMem
    exact hDeclares.resourceNames _ (List.mem_map.mpr ⟨resource, hResource, rfl⟩)
  outputNames := by
    intro t hMem output hOutput
    obtain ⟨imports, hDeclares, -⟩ := h.declares hMem
    exact hDeclares.outputNames _ (List.mem_map.mpr ⟨output, hOutput, rfl⟩)
  exportNames := fun t hMem => h.count_exportNames hName hMem
  exported := by
    rintro ⟨region, r⟩ hUse ⟨region', r'⟩ hUse' hTopology hSame
    exact (Reference.exportKey_eq_iff hTopology).mpr
      (Intrinsic.eq_of_exportName_eq (h.attr_of_use hUse) (h.attr_of_use hUse') hSame)
  regions := by
    rintro ⟨region, r⟩ hUse ⟨region', r'⟩ hUse' hTopology hMarked hMarked'
    exact (h.topology_eq_iff_of_uses hUse hUse' hMarked hMarked').mp hTopology
  parameters := by
    intro t hMem r hEmbedded r' hEmbedded' hForeign hForeign' hMarked hMarked' hSame
    have hUse : (t.region, r) ∈ tiers.assembly.uses :=
      Assembly.mem_uses_iff.mpr ⟨t, hMem, rfl, hEmbedded, hForeign⟩
    have hUse' : (t.region, r') ∈ tiers.assembly.uses :=
      Assembly.mem_uses_iff.mpr ⟨t, hMem, rfl, hEmbedded', hForeign'⟩
    have hTopology := (h.topology_eq_iff_of_uses hUse hUse' hMarked hMarked').mpr rfl
    exact (Reference.parameterPath_eq_iff hTopology).mpr
      (Intrinsic.eq_of_parameterName_eq hTopology (h.attr_of_use hUse) (h.attr_of_use hUse') hSame)

end

end Tiers

namespace Deployment

theorem assemble_eq_ok {settings : Settings} {tiers : Tiers}
    (hTiers : Tiers.ofSettings settings = .ok tiers)
    (hMade : tiers.MadeFrom (.ofSettings settings)) :
    assemble settings = .ok (ofTiers settings tiers) := by
  unfold assemble
  exact bind_eq_ok_iff.mpr ⟨tiers, hTiers, then_eq_ok_iff.mpr ⟨hMade.validate_assembly, rfl⟩⟩

/-- Every accepted document can be deployed. The files of its deployment are the templates of its
topologies and a manifest, and the wiring between these templates is closed. -/
theorem wiringClosed_of_accepted {d : Document} {settings : Settings}
    (h : d.validate = .ok settings) :
    ∃ deployment, assemble settings = .ok deployment ∧ deployment.assembly.WiringClosed ∧
      ∀ compact metadata, ∃ files, deployment.assembly.render compact metadata = .ok files ∧
        files.artifacts.map (fun file => (file.path.text, file.content)) =
          deployment.assembly.topologies.map (fun t =>
            (Template.fileName t.name,
              Assembly.encode compact (deployment.assembly.template t))) ++
            [(manifestFile, Assembly.encode compact (deployment.assembly.manifest metadata))] := by
  have hBounded := Document.bounded_of_validate h
  obtain ⟨tiers, hTiers, hMade⟩ := Tiers.ofSettings_eq_ok hBounded
  have hNamed := hMade.namedApart hBounded.name
  exact ⟨ofTiers settings tiers, assemble_eq_ok hTiers hMade,
    Assembly.wiringClosed_of_validate hMade.validate_assembly hNamed, hNamed.render_eq_ok⟩

/-- None of the templates that are made from an accepted document loses an entry. -/
theorem keepsEntries_of_accepted {d : Document} {settings : Settings}
    (h : d.validate = .ok settings) :
    ∃ deployment, assemble settings = .ok deployment ∧
      ∀ t ∈ deployment.assembly.topologies, deployment.assembly.KeepsEntries t := by
  have hBounded := Document.bounded_of_validate h
  obtain ⟨tiers, hTiers, hMade⟩ := Tiers.ofSettings_eq_ok hBounded
  refine ⟨ofTiers settings tiers, assemble_eq_ok hTiers hMade, fun t hMem => ?_⟩
  exact (hMade.namedApart hBounded.name).keepsEntries hMade.validate_assembly hMem

/-- In the deployment of an accepted document all uses across regions are treated as such. -/
theorem treatsCrossings_of_accepted {d : Document} {settings : Settings}
    (h : d.validate = .ok settings) :
    ∃ deployment, assemble settings = .ok deployment ∧ deployment.assembly.TreatsCrossings := by
  obtain ⟨tiers, hTiers, hMade⟩ := Tiers.ofSettings_eq_ok (Document.bounded_of_validate h)
  exact ⟨ofTiers settings tiers, assemble_eq_ok hTiers hMade, hMade.treatsCrossings⟩

/-- A document with all tiers, in another region than that of its certificate. -/
def siteDocument : Document :=
  { namePrefix := some "Acme", region := some "eu-west-1", dnsDomain := some "example.com"
    dnsDomainHost := some "www", dnsDomainEnableRoot := some true, dbEngine := some "postgresql"
    sesEmailEnabled := some true }

def siteSettings : Settings :=
  { scope := ⟨"Acme", ⟨"eu-west-1"⟩⟩, maxAzs := 3, dns := ⟨"example.com", some "www", true⟩
    database :=
      { engine := .postgresql, name := "acme", username := "dbadmin", instanceType := "t4g.medium"
        replicas := 1, backupWindow := none, retentionDays := 14, maintenanceWindow := none
        ingress := [], babelfish := false }
    email := true
    web := ⟨256, 512, 1, "latest", none⟩ }

/-- The security group of the site's database. -/
def siteGroup : Reference :=
  ⟨"AcmeData", ⟨"eu-west-1"⟩, Data.groupId, Attribute.groupId, false⟩

/-- The certificate of the site, as it is used in another region. -/
def siteCertificate : Reference :=
  ⟨"AcmeCert", .cdnHome, Cert.certificateId, Attribute.self, true⟩

/-- The topology of the site's application uses both of them. -/
theorem uses_siteSettings {tiers : Tiers} (h : Tiers.ofSettings siteSettings = .ok tiers) :
    tiers.web.topology.name = "AcmeWeb" ∧ tiers.web.topology.region = ⟨"eu-west-1"⟩ ∧
      siteGroup ∈ tiers.web.topology.embedded ∧ siteCertificate ∈ tiers.web.topology.embedded := by
  have hUses : (Tiers.ofSettings siteSettings).toOption.any (fun tiers =>
      decide (tiers.web.topology.name = "AcmeWeb" ∧ tiers.web.topology.region = ⟨"eu-west-1"⟩ ∧
        siteGroup ∈ tiers.web.topology.embedded ∧
        siteCertificate ∈ tiers.web.topology.embedded)) = true := by
    decide +kernel
  rw [h] at hUses
  exact of_decide_eq_true hUses

/-- How the template of the site's application is connected with the templates of the data and of
the certificate. -/
structure SiteWiring (a : Assembly) (web : Topology) : Prop where
  name : web.name = "AcmeWeb"
  /-- The security group is imported. -/
  imported : .importValue "AcmeData:SecurityGroupDB:GroupId" ∈ (a.template web).placeholders
  /-- It is exported once, by the data. -/
  exported : ∃ output : String × Json,
    (a.renderedOutputs.filter fun output =>
        Template.exportName? output.2.2 = some "AcmeData:SecurityGroupDB:GroupId") =
      [("AcmeData", output)] ∧
    output.2.member? "Value" =
      some (Json.object [("Fn::GetAtt", .strs ["SecurityGroupDB", "GroupId"])])
  /-- The certificate is a parameter. -/
  passed : .ref "ImportAcmeCertAcmCertificateRef" ∈ (a.template web).placeholders
  parameter : ∃ parameter, ("ImportAcmeCertAcmCertificateRef", parameter) ∈
      Template.entriesIn "Parameters" (a.template web) ∧
    Template.defaultPath? parameter = some "/tierstack/exports/AcmeCert/AcmCertificate/Ref"
  /-- It is written once, by the template of the certificate and in the other region. -/
  written : (a.renderedWrites.filter fun write =>
      write.2.2.1 = "/tierstack/exports/AcmeCert/AcmCertificate/Ref") =
    [("AcmeCert", "eu-west-1", "/tierstack/exports/AcmeCert/AcmCertificate/Ref",
      Json.object [("Ref", .str "AcmCertificate")])]

theorem wiringClosed_siteDocument : siteDocument.validate = .ok siteSettings ∧
    ∃ deployment, assemble siteSettings = .ok deployment ∧ deployment.assembly.WiringClosed ∧
      ∃ web ∈ deployment.assembly.topologies, SiteWiring deployment.assembly web := by
  have hValid : siteDocument.validate = .ok siteSettings := by decide +kernel
  obtain ⟨deployment, hAssembled, hClosed, -⟩ := wiringClosed_of_accepted hValid
  obtain ⟨tiers, hTiers, hMade⟩ := Tiers.ofSettings_eq_ok (Document.bounded_of_validate hValid)
  obtain rfl := Except.ok.inj (hAssembled.symm.trans (assemble_eq_ok hTiers hMade))
  obtain ⟨hName, hRegion, hGroup, hCertificate⟩ := uses_siteSettings hTiers
  have hMem : tiers.web.topology ∈ (ofTiers siteSettings tiers).assembly.topologies := by
    simp [ofTiers, Tiers.assembly, Tiers.topologies]
  obtain ⟨handedOut, -, hEmitted⟩ := hClosed.emitted _ hMem
  have hThere {r : Reference} (h : r ∈ tiers.web.topology.embedded) :
      Placeholder.ofReference "AcmeWeb" r ∈
        ((ofTiers siteSettings tiers).assembly.template tiers.web.topology).placeholders := by
    rw [hEmitted.mem_iff, hName]
    exact List.mem_append_left _ (List.mem_map_of_mem h)
  have hForeign : siteGroup.topology ≠ tiers.web.topology.name := by rw [hName]; decide
  have hForeign' : siteCertificate.topology ≠ tiers.web.topology.name := by rw [hName]; decide
  obtain ⟨hParameter, hWrites⟩ := hClosed.parameters _ hMem _ hCertificate hForeign' rfl
  rw [hRegion] at hWrites
  refine ⟨hValid, _, hAssembled, hClosed, _, hMem, ?_⟩
  exact
    { name := hName
      imported := hThere hGroup
      exported := hClosed.imports _ hMem _ hGroup hForeign rfl
      passed := hThere hCertificate
      parameter := hParameter
      written := hWrites }

end Deployment

end Blueprint
