import Blueprint.Proofs.Assembly.Replacement
import Blueprint.Proofs.Deployment.Wiring
import Blueprint.Proofs.Settings.Change

/-! A change of settings stays in one template. How a service or a database runs decides what its
tier declares, but neither what the tier takes from others nor what it hands on to them. -/

namespace Blueprint

/-- Two topologies look the same if they import the same and use all of it, whatever else they
declare. -/
theorem Topology.Declares.looksLike {t t' : Topology} {imports : List Reference}
    (h : t.Declares imports) (h' : t'.Declares imports) (hAll : t.UsesAll imports)
    (hAll' : t'.UsesAll imports) (hName : t.name = t'.name) (hRegion : t.region = t'.region)
    (hCrossRegion : t.crossRegion = t'.crossRegion)
    (hDependencies : t.dependencies = t'.dependencies) : t.LooksLike t' where
  name := hName
  region := hRegion
  crossRegion := hCrossRegion
  dependencies := hDependencies
  uses := by
    intro r
    rw [h.mem_foreignReferences_iff hAll, h'.mem_foreignReferences_iff hAll']
    simp only [localized, hName, hRegion]

/-- The web tier does not ask for the machines of the database one by one. -/
theorem Web.topology_declared_instances (inputs : Inputs) (instanceEndpoints : List Reference) :
    (declared
        { inputs with database := { inputs.database with instanceEndpoints } }).topology =
      (declared inputs).topology := rfl

/-- Of what may change about a database, its handle tells the addresses of the machines only. -/
theorem Data.handle_declared {scope : Scope} {network : NetworkHandle}
    {settings settings' : DatabaseSettings} {instances instances' : List (Nat × ResourceId)}
    (hEngine : settings'.engine = settings.engine) (hName : settings'.name = settings.name) :
    (declared scope settings' network instances').handle =
      { (declared scope settings network instances).handle with
        instanceEndpoints := endpoints scope network instances' } := by
  simp only [declared, secretName, hEngine, hName]

namespace Tiers

variable {settings : Settings} {tiers tiers' : Tiers}

theorem CreatedFor.usesAll_web (h : tiers.CreatedFor (.ofSettings settings)) :
    tiers.web.topology.UsesAll (Web.imports (tiers.webInputs (.ofSettings settings))) := by
  rw [h.eq_declared_web]
  refine Web.usesAll_declared fun hSome => ?_
  rcases h.eq_declared_cert with ⟨-, hNone⟩ | ⟨dns, domains, hDns, -, -⟩
  · simp [webInputs, hNone] at hSome
  · exact (Option.ite_none_right_eq_some.mp hDns).1

/-- How the service runs matters to the web tier alone, and not to what it takes from others. -/
theorem differsIn_of_service {web : WebSettings} (h : tiers.CreatedFor (.ofSettings settings))
    (h' : tiers'.CreatedFor (.ofSettings { settings with web }))
    (hMade : tiers.MadeFrom (.ofSettings settings))
    (hMade' : tiers'.MadeFrom (.ofSettings { settings with web })) :
    tiers.assembly.DiffersIn (settings.scope.topologyName "Web") tiers'.assembly := by
  have hAll := h.usesAll_web
  have hAll' := h'.usesAll_web
  have hWeb := h.eq_declared_web
  have hWeb' := h'.eq_declared_web
  obtain ⟨base, data, email, cert, web⟩ := tiers
  obtain ⟨base', data', email', cert', web'⟩ := tiers'
  obtain rfl : base = base' := Except.ok.inj (h.base.symm.trans h'.base)
  obtain rfl : data = data' := Except.ok.inj (h.data.symm.trans h'.data)
  obtain rfl : email = email' := Except.ok.inj (h.email.symm.trans h'.email)
  obtain rfl : cert = cert' := Except.ok.inj (h.cert.symm.trans h'.cert)
  refine ⟨_, _, _, [], rfl, rfl, ?_, hMade.web.name⟩
  refine hMade.web.declares.looksLike hMade'.web.declares hAll hAll'
    (hMade.web.name.trans hMade'.web.name.symm) (hMade.web.region.trans hMade'.web.region.symm)
    (hMade.web.crossRegion.trans hMade'.web.crossRegion.symm) ?_
  rw [hWeb, hWeb']
  rfl

/-- How the database runs matters to the data tier alone, as long as its engine and its name stay:
the web tier reads nothing else of its handle. -/
theorem differsIn_of_database {database : DatabaseSettings}
    (hEngine : database.engine = settings.database.engine)
    (hName : database.name = settings.database.name)
    (h : tiers.CreatedFor (.ofSettings settings))
    (h' : tiers'.CreatedFor (.ofSettings { settings with database }))
    (hReplicas : settings.database.replicas ≤ Bounds.nat32)
    (hReplicas' : database.replicas ≤ Bounds.nat32)
    (hMade : tiers.MadeFrom (.ofSettings settings))
    (hMade' : tiers'.MadeFrom (.ofSettings { settings with database })) :
    tiers.assembly.DiffersIn (settings.scope.topologyName "Data") tiers'.assembly := by
  have hWeb := h.eq_declared_web
  have hWeb' := h'.eq_declared_web
  obtain ⟨instances, hData⟩ := h.eq_declared_data hReplicas
  obtain ⟨instances', hData'⟩ := h'.eq_declared_data hReplicas'
  obtain ⟨base, data, email, cert, web⟩ := tiers
  obtain ⟨base', data', email', cert', web'⟩ := tiers'
  obtain rfl : base = base' := Except.ok.inj (h.base.symm.trans h'.base)
  obtain rfl : email = email' := Except.ok.inj (h.email.symm.trans h'.email)
  obtain rfl : cert = cert' := Except.ok.inj (h.cert.symm.trans h'.cert)
  dsimp only at hWeb hWeb' hData hData'
  -- Both web tiers are declared from the same inputs, apart from the machines of the database.
  have hHandle : data'.handle = { data.handle with
      instanceEndpoints := Data.endpoints settings.scope base.handle instances' } := by
    rw [hData, hData']
    exact Data.handle_declared hEngine hName
  have hTopology : web'.topology = web.topology := by
    rw [hWeb, hWeb', ← Web.topology_declared_instances (webInputs _ _)]
    simp only [webInputs, hHandle]
    rfl
  refine ⟨[base.topology], _, data'.topology, _, rfl, ?_, ?_, hMade.data.name⟩
  · simp only [assembly, topologies, hTopology]
    rfl
  · refine hMade.data.declares.looksLike hMade'.data.declares (hData ▸ Data.usesAll_declared)
      (hData' ▸ Data.usesAll_declared) (hMade.data.name.trans hMade'.data.name.symm)
      (hMade.data.region.trans hMade'.data.region.symm)
      (hMade.data.crossRegion.trans hMade'.data.crossRegion.symm) ?_
    rw [hData, hData']
    rfl

end Tiers

namespace Deployment

/-- A change of what only the service or only the database needs stays in the template of the web
tier or of the data tier: all other files, and the manifest with them, keep their text. -/
theorem change_stays_in_template {d d' : Document} {settings settings' : Settings}
    (h : d.validate = .ok settings) (h' : d'.validate = .ok settings') :
    ∃ deployment deployment',
      assemble settings = .ok deployment ∧ assemble settings' = .ok deployment' ∧
        ∀ compact metadata, ∃ files files',
          deployment.assembly.render compact metadata = .ok files ∧
          deployment'.assembly.render compact metadata = .ok files' ∧
          (d.DiffersInService d' → files.AgreeExcept
            (Template.fileName (settings.scope.topologyName "Web")) files') ∧
          (d.DiffersInDatabase d' → files.AgreeExcept
            (Template.fileName (settings.scope.topologyName "Data")) files') := by
  have hBounded := Document.bounded_of_validate h
  have hBounded' := Document.bounded_of_validate h'
  have hMeans := Document.means_of_validate h
  have hMeans' := Document.means_of_validate h'
  obtain ⟨tiers, hTiers, hMade⟩ := Tiers.ofSettings_eq_ok hBounded
  obtain ⟨tiers', hTiers', hMade'⟩ := Tiers.ofSettings_eq_ok hBounded'
  have hCreated := Tiers.createdFor_of_ofSettings hTiers
  have hCreated' := Tiers.createdFor_of_ofSettings hTiers'
  refine ⟨_, _, assemble_eq_ok hTiers hMade, assemble_eq_ok hTiers' hMade',
    fun compact metadata => ?_⟩
  obtain ⟨files, hFiles, -⟩ := (hMade.namedApart hBounded.name).render_eq_ok compact metadata
  obtain ⟨files', hFiles', -⟩ := (hMade'.namedApart hBounded'.name).render_eq_ok compact metadata
  refine ⟨files, files', hFiles, hFiles', fun hDiffers => ?_, fun hDiffers => ?_⟩
  · have hSettings := hDiffers.settings_eq hMeans hMeans'
    rw [hSettings] at hCreated' hMade'
    exact (Tiers.differsIn_of_service hCreated hCreated' hMade hMade').agreeExcept hFiles hFiles'
  · obtain ⟨hSettings, hEngine, hName⟩ := hDiffers.settings_eq hMeans hMeans'
    rw [hSettings] at hCreated' hMade'
    exact (Tiers.differsIn_of_database hEngine hName hCreated hCreated' hBounded.replicas.2
      hBounded'.replicas.2 hMade hMade').agreeExcept hFiles hFiles'

/-- The site with more and larger tasks of another image. -/
def busyDocument : Document :=
  { siteDocument with
    fargateCpu := some 1024, fargateMemoryLimit := some 4096, fargateInstances := some 5
    ecrRepositoryTag := some "2.0", cfOriginShieldRegion := some "eu-central-1" }

def busySettings : Settings :=
  { siteSettings with web := ⟨1024, 4096, 5, "2.0", some ⟨"eu-central-1"⟩⟩ }

/-- The site with more machines for its database, and with access from outside. -/
def openDocument : Document :=
  { siteDocument with
    dbReplicaInstances := some 3, dbBackupWindow := some "01:00-02:00"
    dbBackupRetentionDays := some 30, dbPreferredMaintenanceWindow := some "sun:03:00-sun:04:00"
    dbIngressSources := some ["10.1.0.0/16"], dbInstanceType := some "r6g.large"
    dbUsername := some "owner", dbEnableBabelfish := some true }

def openSettings : Settings :=
  { siteSettings with
    database :=
      { engine := .postgresql, name := "acme", username := "owner", instanceType := "r6g.large"
        replicas := 3, backupWindow := some "01:00-02:00", retentionDays := 30
        maintenanceWindow := some "sun:03:00-sun:04:00", ingress := [.ipv4 "10.1.0.0/16"]
        babelfish := true } }

theorem change_stays_in_template_site :
    (siteDocument.validate = .ok siteSettings ∧ busyDocument.validate = .ok busySettings ∧
      openDocument.validate = .ok openSettings) ∧
    (∃ site busy files files',
      assemble siteSettings = .ok site ∧ assemble busySettings = .ok busy ∧
      site.assembly.render true ⟨"site", "today", "1.0"⟩ = .ok files ∧
      busy.assembly.render true ⟨"site", "today", "1.0"⟩ = .ok files' ∧
      files.AgreeExcept (Template.fileName (siteSettings.scope.topologyName "Web")) files') ∧
    ∃ site opened files files',
      assemble siteSettings = .ok site ∧ assemble openSettings = .ok opened ∧
      site.assembly.render true ⟨"site", "today", "1.0"⟩ = .ok files ∧
      opened.assembly.render true ⟨"site", "today", "1.0"⟩ = .ok files' ∧
      files.AgreeExcept (Template.fileName (siteSettings.scope.topologyName "Data")) files' := by
  have hSite : siteDocument.validate = .ok siteSettings := by decide +kernel
  have hBusy : busyDocument.validate = .ok busySettings := by decide +kernel
  have hOpen : openDocument.validate = .ok openSettings := by decide +kernel
  refine ⟨⟨hSite, hBusy, hOpen⟩, ?_, ?_⟩
  · obtain ⟨site, busy, hAssembled, hAssembled', hRendered⟩ := change_stays_in_template hSite hBusy
    obtain ⟨files, files', hFiles, hFiles', hService, -⟩ :=
      hRendered true ⟨"site", "today", "1.0"⟩
    exact ⟨site, busy, files, files', hAssembled, hAssembled', hFiles, hFiles',
      hService (by decide)⟩
  · obtain ⟨site, opened, hAssembled, hAssembled', hRendered⟩ :=
      change_stays_in_template hSite hOpen
    obtain ⟨files, files', hFiles, hFiles', -, hDatabase⟩ :=
      hRendered true ⟨"site", "today", "1.0"⟩
    exact ⟨site, opened, files, files', hAssembled, hAssembled', hFiles, hFiles',
      hDatabase (by decide)⟩

end Deployment

end Blueprint
