import Blueprint.Proofs.Network.Peer
import Blueprint.Proofs.Settings.Change

/-! Settings written back as a document. The document spells everything out, so nothing in it is
trimmed, defaulted or moved into bounds any more: it is accepted like the one that the settings come
from, and means the same. -/

namespace Blueprint

/-- The document that spells out all settings. -/
def Settings.toDocument (s : Settings) : Document where
  namePrefix := some s.scope.name
  region := some s.scope.region.name
  maxAzs := some s.maxAzs
  dnsDomain := some s.dns.domain
  dnsDomainHost := s.dns.host
  dnsDomainEnableRoot := some s.dns.root
  dbEngine := some s.database.engine.name
  dbName := some s.database.name
  dbUsername := some s.database.username
  dbInstanceType := some s.database.instanceType
  dbReplicaInstances := some s.database.replicas
  dbBackupWindow := s.database.backupWindow
  dbBackupRetentionDays := some s.database.retentionDays
  dbPreferredMaintenanceWindow := s.database.maintenanceWindow
  dbIngressSources := some (s.database.ingress.map Peer.text)
  dbEnableBabelfish := some s.database.babelfish
  sesEmailEnabled := some s.email
  fargateCpu := some s.web.cpu
  fargateMemoryLimit := some s.web.memory
  fargateInstances := some s.web.instances
  ecrRepositoryTag := some s.web.imageTag
  cfOriginShieldRegion := s.web.shieldRegion.map Region.name

namespace Document

variable {d : Document} {s : Settings}

theorem bare_some_bare (value : Option String) : bare (some (bare value)) = bare value :=
  Text.trim_trim _

theorem bare_trimmed? (value : Option String) : bare (trimmed? value) = bare value := by
  rw [trimmed?_eq]
  split
  next hBlank => exact (show bare none = "" by decide).trans hBlank.symm
  next => exact bare_some_bare value

theorem trimmed?_trimmed? (value : Option String) : trimmed? (trimmed? value) = trimmed? value := by
  rw [trimmed?_eq (trimmed? value), bare_trimmed?, ← trimmed?_eq]

/-- What has been trimmed once stays the same. -/
theorem eq_trimmed?_of_eq {value trimmed : Option String} (h : trimmed = trimmed? value) :
    trimmed = trimmed? trimmed := by
  rw [h, trimmed?_trimmed?]

namespace Means

/-! ### The meaning -/

theorem bare_namePrefix (h : d.Means s) : bare s.toDocument.namePrefix = bare d.namePrefix := by
  rw [Settings.toDocument, h.scope]
  exact bare_some_bare _

theorem bare_dnsDomain (h : d.Means s) : bare s.toDocument.dnsDomain = bare d.dnsDomain := by
  rw [Settings.toDocument, h.domain]
  exact bare_some_bare _

theorem bare_dnsDomainHost (h : d.Means s) :
    bare s.toDocument.dnsDomainHost = bare d.dnsDomainHost := by
  have hHost : s.toDocument.dnsDomainHost = trimmed? d.dnsDomainHost := h.host
  rw [hHost, bare_trimmed?]

theorem bare_dbEngine (h : d.Means s) : bare s.toDocument.dbEngine = bare d.dbEngine := by
  rw [Settings.toDocument, h.engine]
  exact bare_some_bare _

/-- Every source that is written back is read as the peer that it was written for. -/
theorem parse_toDocument (h : d.Means s) :
    ∀ peer ∈ s.database.ingress, Peer.parse peer.text = .ok peer := by
  intro peer hMem
  have hParsed : .ok peer ∈ (d.dbIngressSources.getD []).map Peer.parse := by
    rw [h.ingress]
    exact List.mem_map_of_mem hMem
  obtain ⟨source, -, hSource⟩ := List.mem_map.mp hParsed
  exact Peer.parse_text hSource

/-- Settings are what is meant by the document that spells them out. -/
theorem toDocument (h : d.Means s) : s.toDocument.Means s where
  scope := by
    have hName : s.scope.name = bare d.namePrefix := congrArg Scope.name h.scope
    rw [h.bare_namePrefix, ← hName]
    rfl
  maxAzs := rfl
  domain := by rw [h.bare_dnsDomain, h.domain]
  host := eq_trimmed?_of_eq h.host
  root := rfl
  engine := by rw [h.bare_dbEngine, h.engine]
  name := rfl
  username := rfl
  instanceType := rfl
  replicas := by
    have hBounds := h.replicas
    rw [Settings.toDocument, Option.getD_some]
    omega
  retention := by
    have hBounds := h.retention
    rw [Settings.toDocument, Option.getD_some]
    omega
  backupWindow := eq_trimmed?_of_eq h.backupWindow
  maintenanceWindow := eq_trimmed?_of_eq h.maintenanceWindow
  ingress := by
    rw [Settings.toDocument, Option.getD_some, List.map_map, Function.comp_def]
    exact List.map_congr_left h.parse_toDocument
  babelfish := rfl
  email := rfl
  cpu := rfl
  memory := rfl
  instances := rfl
  imageTag := rfl
  shieldRegion := by
    rw [Settings.toDocument, Option.map_map]
    exact (congrFun Option.map_id _).symm

/-! ### The rules -/

theorem scopeRules_toDocument (h : d.Means s) (hRules : ∀ rule ∈ d.scopeRules, rule.holds) :
    ∀ rule ∈ s.toDocument.scopeRules, rule.holds := by
  simp only [scopeRules, List.forall_mem_cons] at hRules ⊢
  obtain ⟨hName, hRegion, hZones, hNone⟩ := hRules
  refine ⟨?_, ?_, ?_, hNone⟩
  · rwa [h.bare_namePrefix]
  · rw [Settings.toDocument, h.scope]
    rintro _ ⟨⟩
    exact (getD_iff (Region.isName_iff.mp (by decide))).mpr hRegion
  · rw [Settings.toDocument, h.maxAzs]
    rintro _ ⟨⟩
    exact (getD_iff (P := fun n => 1 ≤ n ∧ n ≤ 3) (by decide)).mpr hZones

theorem dnsRules_toDocument (h : d.Means s) (hRules : ∀ rule ∈ d.dnsRules, rule.holds) :
    ∀ rule ∈ s.toDocument.dnsRules, rule.holds := by
  simp only [dnsRules, List.forall_mem_cons] at hRules ⊢
  rwa [h.bare_dnsDomain, h.bare_dnsDomainHost]

theorem databaseRules_toDocument (h : d.Means s) (hRules : ∀ rule ∈ d.databaseRules, rule.holds) :
    ∀ rule ∈ s.toDocument.databaseRules, rule.holds := by
  simp only [databaseRules, List.forall_mem_cons] at hRules ⊢
  obtain ⟨hName, hUsername, hType, -, hNone⟩ := hRules
  refine ⟨?_, ?_, ?_, ?_, hNone⟩
  · rwa [← h.name] at hName
  · rwa [← h.username] at hUsername
  · rw [Settings.toDocument, h.instanceType]
    rintro _ ⟨⟩
    exact (getD_iff (P := fun type => Text.trim type ≠ "") (by decide)).mpr hType
  · rw [Settings.toDocument, Option.getD_some]
    exact List.forall_mem_map.mpr fun peer hMem => ⟨peer, h.parse_toDocument peer hMem⟩

theorem webRules_toDocument (h : d.Means s) (hRules : ∀ rule ∈ d.webRules, rule.holds) :
    ∀ rule ∈ s.toDocument.webRules, rule.holds := by
  simp only [webRules, List.forall_mem_cons] at hRules ⊢
  obtain ⟨hCpu, hMemory, hInstances, hTag, hShield, hNone⟩ := hRules
  refine ⟨?_, ?_, ?_, ?_, ?_, hNone⟩
  · rwa [← h.cpu] at hCpu
  · rwa [← h.cpu, ← h.memory] at hMemory
  · rw [Settings.toDocument, h.instances]
    cases hCount : d.fargateInstances <;> simp_all
  · rw [Settings.toDocument, h.imageTag]
    rintro _ ⟨⟩
    exact (getD_iff (Naming.isImageTag_iff.mp (by decide))).mpr hTag
  · rw [Settings.toDocument, h.shieldRegion, Option.map_map]
    exact (congrFun Option.map_id _).symm ▸ hShield

/-- The document that spells out the settings keeps the rules that the first one kept. -/
theorem rules_toDocument (h : d.Means s) (hRules : ∀ rule ∈ d.rules, rule.holds) :
    ∀ rule ∈ s.toDocument.rules, rule.holds := by
  simp only [rules, List.forall_mem_cons, List.forall_mem_append] at hRules ⊢
  obtain ⟨hEngine, hScope, hDns, hDatabase, hWeb⟩ := hRules
  refine ⟨?_, h.scopeRules_toDocument hScope, h.dnsRules_toDocument hDns,
    h.databaseRules_toDocument hDatabase, h.webRules_toDocument hWeb⟩
  rwa [engineRule, h.bare_dbEngine]

end Means

/-- Settings that a document was accepted with are a normal form: spelled out as a document, they
are accepted again and come out unchanged. -/
theorem validate_toDocument (h : d.validate = .ok s) : s.toDocument.validate = .ok s := by
  have hMeans := means_of_validate h
  have hRules := hMeans.rules_toDocument (rules_of_validate h)
  obtain ⟨s', hValid⟩ := (judges_validate (d := s.toDocument)).ok_iff.mpr hRules
  rw [hValid, (means_of_validate hValid).unique hMeans.toDocument]

/-- A document with blanks around its texts, counts out of bounds, and most keys missing. -/
def untidyDocument : Document :=
  { namePrefix := some " Acme\t", dnsDomain := some "example.com\n", dnsDomainHost := some "  "
    dbEngine := some " mysql ", dbReplicaInstances := some (-3)
    dbBackupRetentionDays := some 99999999999, dbBackupWindow := some " 03:00-04:00 "
    dbIngressSources := some [" 10.0.0.0/8", "sg-0a1b "], cfOriginShieldRegion := some "eu-west-1" }

def tidySettings : Settings :=
  { scope := ⟨"Acme", ⟨"us-east-1"⟩⟩, maxAzs := 3, dns := ⟨"example.com", none, false⟩
    database :=
      { engine := .mysql, name := "acme", username := "dbadmin", instanceType := "t4g.medium"
        replicas := 1, backupWindow := some "03:00-04:00", retentionDays := 4294967295
        maintenanceWindow := none, ingress := [.ipv4 "10.0.0.0/8", .securityGroup "sg-0a1b"]
        babelfish := false }
    email := false
    web := ⟨256, 512, 1, "latest", some ⟨"eu-west-1"⟩⟩ }

theorem validate_toDocument_tidySettings :
    untidyDocument.validate = .ok tidySettings ∧ tidySettings.toDocument ≠ untidyDocument ∧
      tidySettings.toDocument.validate = .ok tidySettings := by
  have hValid : untidyDocument.validate = .ok tidySettings := by decide +kernel
  refine ⟨hValid, fun hSame => ?_, validate_toDocument hValid⟩
  cases congrArg Document.maxAzs hSame

end Document

end Blueprint
