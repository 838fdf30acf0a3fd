import Blueprint.Proofs.Deployment.Tiers

/-! Deployments whose tiers have scopes of their own. No choice of names makes two topologies or two
exports clash, and what a tier imports is always there. The data tier alone may not use another
region, so the check asks for nothing but that it is in the region of the network. -/

namespace Blueprint

namespace Tiers

open Blueprint.Topology

variable {c : Composition} {tiers : Tiers}

section

variable (h : tiers.MadeFrom c)

include h

/-! ### Names -/

theorem MadeFrom.names_sublist :
    tiers.assembly.names.Sublist
      [c.baseScope.topologyName "Base", c.dataScope.topologyName "Data",
        c.emailScope.topologyName "Email", c.certScope.topologyName "Cert",
        c.webScope.topologyName "Web"] := by
  have hEmail : (tiers.email.toList.flatMap fun email => [email.topology.name]).Sublist
      [c.emailScope.topologyName "Email"] :=
    flatMap_toList_sublist fun email hTier => by rw [(h.email email hTier).name]
  have hCert : (tiers.cert.toList.flatMap fun cert => [cert.topology.name]).Sublist
      [c.certScope.topologyName "Cert"] :=
    flatMap_toList_sublist fun cert hTier => by rw [(h.cert cert hTier).name]
  have hNames : tiers.assembly.names =
      [c.baseScope.topologyName "Base", c.dataScope.topologyName "Data"] ++
        (tiers.email.toList.flatMap fun email => [email.topology.name]) ++
        (tiers.cert.toList.flatMap fun cert => [cert.topology.name]) ++
        [c.webScope.topologyName "Web"] := by
    simp [Assembly.names, assembly, topologies, h.base.name, h.data.name, h.web.name, webInputs,
      Function.comp_def, ← List.map_eq_flatMap]
  rw [hNames]
  exact (((List.Sublist.refl _).append hEmail).append hCert).append (List.Sublist.refl _)

/-- The names of topologies end in different letters, whatever they begin with. -/
theorem MadeFrom.nodup_names : tiers.assembly.names.Nodup := by
  refine h.names_sublist.nodup (List.Nodup.of_map (fun name => name.toList.getLast?) ?_)
  simp [Scope.topologyName, List.getLast?_append]

theorem MadeFrom.exportNames_sublist :
    (Assembly.exportNames tiers.topologies).Sublist
      (["OutputEcrImageUrl", "OutputZoneNameServers"] ++ Data.exportNames c.dataScope ++
        "OutputEmailSecretArn" :: Web.exportNames) := by
  have hEmail : (tiers.email.toList.flatMap fun email => email.topology.exportNames).Sublist
      ["OutputEmailSecretArn"] :=
    flatMap_toList_sublist fun email hTier => by rw [(h.email email hTier).exportNames]
  have hCert : ∀ cert, tiers.cert = some cert → cert.topology.exportNames = [] :=
    fun cert hTier => (h.cert cert hTier).exportNames
  have hNames : Assembly.exportNames tiers.topologies =
      ["OutputEcrImageUrl", "OutputZoneNameServers"] ++ Data.exportNames c.dataScope ++
        ((tiers.email.toList.flatMap fun email => email.topology.exportNames) ++
          Web.exportNames) := by
    simpa [Assembly.exportNames, topologies, h.base.exportNames, h.data.exportNames,
      h.web.exportNames, List.flatMap_map] using hCert
  rw [hNames]
  exact (List.Sublist.refl _).append (hEmail.append (List.Sublist.refl _))

/-- The export names of the data tier are the only ones with colons. -/
theorem MadeFrom.nodup_exportNames : (Assembly.exportNames tiers.topologies).Nodup := by
  refine h.exportNames_sublist.nodup ?_
  have hData : (Data.exportNames c.dataScope).Nodup :=
    List.Nodup.map (fun _ _ hSame => (String.append_right_inj _).mp hSame) (by decide)
  have hColon : ∀ name ∈ Data.exportNames c.dataScope, ':' ∈ name.toList := by
    intro name hMem
    obtain ⟨suffix, -, rfl⟩ := List.mem_map.mp hMem
    simp
  exact nodup_between hData hColon (by decide) (by decide)

/-! ### Regions -/

/-- All tiers but the data tier may use other regions, or are supplied by none. -/
theorem MadeFrom.allowed (hRegion : c.baseScope.region = c.dataScope.region) {p t : Topology}
    (hSupplies : tiers.Supplies p t) : p.region = t.region ∨ t.crossRegion = true := by
  cases hSupplies with
  | baseData => exact .inl (by rw [h.base.region, h.data.region, hRegion])
  | baseCert hCert => exact .inr (h.cert _ hCert).crossRegion
  | baseWeb => exact .inr h.web.crossRegion
  | dataWeb => exact .inr h.web.crossRegion
  | emailWeb _ => exact .inr h.web.crossRegion
  | certWeb _ => exact .inr h.web.crossRegion

theorem MadeFrom.wellWired (hRegion : c.baseScope.region = c.dataScope.region) :
    tiers.assembly.WellWired where
  names := h.nodup_names
  exports := h.nodup_exportNames
  fits := by
    intro before t after hSplit
    obtain ⟨imports, hDeclares, hOffered⟩ := h.supplied before t after hSplit
    have hNew := nodup_map_iff_split.mp h.nodup_names before t after hSplit
    refine hDeclares.fits fun i hImport => ?_
    obtain ⟨p, hBefore, hOffers, hSupplies⟩ := hOffered i hImport
    refine ⟨p, hBefore, hOffers, fun hName => hNew ?_, h.allowed hRegion hSupplies⟩
    exact List.mem_map.mpr ⟨p, hBefore, hName⟩

theorem MadeFrom.validate_eq_ok (hRegion : c.baseScope.region = c.dataScope.region) :
    tiers.assembly.validate = .ok () := by
  refine Assembly.validate_eq_ok_iff.mpr ⟨h.wellWired hRegion, fun t hMem => ?_⟩
  obtain ⟨imports, hDeclares, -⟩ := h.declares hMem
  exact ⟨hDeclares.resourceIds, hDeclares.outputIds⟩

/-- The base tier stands on its own. -/
theorem MadeFrom.validate_base : Assembly.validate ⟨[tiers.base.topology]⟩ = .ok () := by
  refine Assembly.validate_eq_ok_iff.mpr ⟨⟨List.nodup_singleton _, ?_, ?_⟩, ?_⟩
  · simp [Assembly.exportNames, h.base.exportNames]
  · refine forall_split_cons.mpr ⟨h.base.declares.fits (by simp), fun before t after hSplit => ?_⟩
    simp at hSplit
  · exact List.forall_mem_singleton.mpr ⟨h.base.declares.resourceIds, h.base.declares.outputIds⟩

/-- A data tier in another region is refused for the network, which it refers to first. -/
theorem MadeFrom.validate_eq_error (hRegion : c.baseScope.region ≠ c.dataScope.region) :
    tiers.assembly.validate =
      .error (.unmarkedCrossing (c.dataScope.topologyName "Data") tiers.base.handle.vpc.token) := by
  have hSplit : tiers.topologies = [tiers.base.topology] ++ tiers.data.topology ::
      (tiers.email.toList.map Tier.topology ++ tiers.cert.toList.map Tier.topology ++
        [tiers.web.topology]) := by
    simp [topologies]
  have hNew := nodup_map_iff_split.mp h.nodup_names _ _ _ hSplit
  have hForeign : tiers.base.handle.vpc.topology ≠ tiers.data.topology.name := by
    rw [h.base.vpc.topology]
    exact fun hName => hNew (List.mem_singleton.mpr hName.symm)
  have hImported : tiers.base.handle.vpc.topology ∈ tiers.data.topology.dependencies :=
    (h.data.declares.dependencies _).mpr ⟨_, List.mem_cons_self .., rfl, hForeign⟩
  have hOther : tiers.base.handle.vpc.region ≠ tiers.data.topology.region := by
    rwa [h.base.vpc.region, h.base.region, h.data.region]
  have hFirst := h.data.first
  rw [localized, if_neg hForeign] at hFirst
  have hError := validate_eq_error_of_crossing h.data.declares.resourceIds
    h.data.declares.outputIds hFirst hForeign hImported hOther h.data.crossRegion
  rw [assembly, hSplit, ← h.data.name]
  exact Assembly.validate_eq_error_of_topology h.validate_base hError

end

end Tiers

namespace Composition

/-- The tiers of every admissible composition can be declared, and the check accepts them exactly
when the network and the database are in one region. If they are not, it tells that the data tier
uses the network across regions. -/
theorem validate_create_iff (c : Composition) (h : c.Admissible) :
    ∃ tiers, c.create = .ok tiers ∧
      (tiers.assembly.validate = .ok () ↔ c.baseScope.region = c.dataScope.region) ∧
        (c.baseScope.region ≠ c.dataScope.region → tiers.assembly.validate =
          .error (.unmarkedCrossing (c.dataScope.topologyName "Data")
            tiers.base.handle.vpc.token)) := by
  obtain ⟨tiers, hTiers, hMade⟩ := Tiers.create_eq_ok h
  refine ⟨tiers, hTiers, ⟨fun hValid => ?_, hMade.validate_eq_ok⟩, hMade.validate_eq_error⟩
  by_contra hRegion
  rw [hMade.validate_eq_error hRegion] at hValid
  cases hValid

/-- A composition with a prefix of its own for every tier, and its database away from its
network. -/
def scattered : Composition where
  baseScope := ⟨"Net", ⟨"eu-west-1"⟩⟩
  dataScope := ⟨"a:b", ⟨"eu-west-2"⟩⟩
  emailScope := ⟨"", ⟨"eu-west-3"⟩⟩
  certScope := ⟨"Base", ⟨"eu-west-1"⟩⟩
  webScope := ⟨"Data", .cdnHome⟩
  maxAzs := 255
  baseDns := ⟨"example.com", none, false⟩
  database :=
    { engine := .postgresql, name := "", username := "", instanceType := "db.", replicas := 0
      backupWindow := none, retentionDays := 0, maintenanceWindow := none, ingress := []
      babelfish := true }
  email := true
  certDns := some ⟨"example.org", some "www", false⟩
  webDns := ⟨"", none, true⟩
  web := ⟨0, 0, 0, "", none⟩

theorem validate_create_scattered : scattered.Admissible ∧
    ∃ tiers, scattered.create = .ok tiers ∧
      tiers.assembly.validate =
        .error (.unmarkedCrossing "a:bData" tiers.base.handle.vpc.token) := by
  have hAdmissible : scattered.Admissible := by
    refine ⟨by decide, by decide, fun dns hDns => ?_⟩
    obtain rfl := Option.mem_some_iff.mp hDns
    rfl
  obtain ⟨tiers, hTiers, -, hError⟩ := validate_create_iff scattered hAdmissible
  exact ⟨hAdmissible, tiers, hTiers, hError (by decide)⟩

end Composition

end Blueprint
