import Blueprint.Proofs.Settings.Judgement
import Blueprint.Proofs.Settings.Language
import Blueprint.Settings.Validation

/-! The rules of the configuration language, each under its key, in the order in which they are
checked. Validation tells whether all of them hold; if not, it tells the first one that is broken,
and if so, the settings are those that the document means. -/

namespace Blueprint

/-- The key that an error is about. -/
def SettingsError.key? : SettingsError → Option String
  | missing key | invalid key _ => some key
  | malformed _ => none

def ModelError.key? : ModelError → Option String
  | settings error => error.key?
  | unsupportedEngine _ => some "dbEngine"
  | _ => none

namespace Document

open Text

/-! ### The rules -/

/-- The text under a key without the blanks around it; nothing counts as the empty text. -/
def bare (value : Option String) : String := trim (value.getD "")

theorem trimmed?_eq (value : Option String) :
    trimmed? value = if bare value = "" then none else some (bare value) := rfl

def engineRule (d : Document) : Rule :=
  ⟨"dbEngine", bare d.dbEngine = "mysql" ∨ bare d.dbEngine = "postgresql"⟩

def scopeRules (d : Document) : List Rule :=
  [⟨"namePrefix", Naming.BeginsWithLetter (fun c => isAlnum c) (bare d.namePrefix)⟩,
    ⟨"region", ∀ name ∈ d.region, Region.IsName name⟩,
    ⟨"maxAzs", ∀ n ∈ d.maxAzs, 1 ≤ n ∧ n ≤ 3⟩]

def dnsRules (d : Document) : List Rule :=
  [⟨"dnsDomain", Naming.IsDnsName 2 (bare d.dnsDomain)⟩,
    ⟨"dnsDomainHost", bare d.dnsDomainHost = "" ∨ Naming.IsDnsName 1 (bare d.dnsDomainHost)⟩]

def databaseRules (d : Document) : List Rule :=
  [⟨"dbName", Naming.IsIdentifier '-' (d.dbName.getD (lower (bare d.namePrefix)))⟩,
    ⟨"dbUsername", Naming.IsIdentifier '_' (d.dbUsername.getD "dbadmin")⟩,
    ⟨"dbInstanceType", ∀ type ∈ d.dbInstanceType, trim type ≠ ""⟩,
    ⟨"dbIngressSources", ∀ source ∈ d.dbIngressSources.getD [],
      ∃ peer, Peer.parse source = .ok peer⟩]

def webRules (d : Document) : List Rule :=
  [⟨"fargateCpu", ∃ size ∈ TaskSize.table, size.cpu = d.fargateCpu.getD 256⟩,
    ⟨"fargateMemoryLimit",
      TaskSize.IsOffered (d.fargateCpu.getD 256) (d.fargateMemoryLimit.getD 512)⟩,
    ⟨"fargateInstances", d.fargateInstances ≠ some 0⟩,
    ⟨"ecrRepositoryTag", ∀ tag ∈ d.ecrRepositoryTag, Naming.IsImageTag tag⟩,
    ⟨"cfOriginShieldRegion", ∀ name ∈ d.cfOriginShieldRegion, Region.IsName name⟩]

/-- The rules of a document, in the order in which they are checked. -/
def rules (d : Document) : List Rule :=
  d.engineRule :: (d.scopeRules ++ (d.dnsRules ++ (d.databaseRules ++ d.webRules)))

/-- The settings that a document means: what is missing has its default, texts are without the
blanks around them where blanks do not count, and counts are moved into their bounds. -/
structure Means (d : Document) (s : Settings) : Prop where
  scope : s.scope = ⟨bare d.namePrefix, ⟨d.region.getD "us-east-1"⟩⟩
  maxAzs : s.maxAzs = d.maxAzs.getD 3
  domain : s.dns.domain = bare d.dnsDomain
  host : s.dns.host = trimmed? d.dnsDomainHost
  root : s.dns.root = d.dnsDomainEnableRoot.getD false
  engine : s.database.engine.name = bare d.dbEngine
  name : s.database.name = d.dbName.getD (lower (bare d.namePrefix))
  username : s.database.username = d.dbUsername.getD "dbadmin"
  instanceType : s.database.instanceType = d.dbInstanceType.getD "t4g.medium"
  replicas : (s.database.replicas : Int) = min (max 1 (d.dbReplicaInstances.getD 1)) Bounds.nat32
  retention :
    (s.database.retentionDays : Int) = min (max 14 (d.dbBackupRetentionDays.getD 14)) Bounds.nat32
  backupWindow : s.database.backupWindow = trimmed? d.dbBackupWindow
  maintenanceWindow : s.database.maintenanceWindow = trimmed? d.dbPreferredMaintenanceWindow
  ingress : (d.dbIngressSources.getD []).map Peer.parse = s.database.ingress.map .ok
  babelfish : s.database.babelfish = d.dbEnableBabelfish.getD false
  email : s.email = d.sesEmailEnabled.getD false
  cpu : s.web.cpu = d.fargateCpu.getD 256
  memory : s.web.memory = d.fargateMemoryLimit.getD 512
  instances : s.web.instances = d.fargateInstances.getD 1
  imageTag : s.web.imageTag = d.ecrRepositoryTag.getD "latest"
  shieldRegion : s.web.shieldRegion = d.cfOriginShieldRegion.map Region.mk

/-! ### The checks -/

variable {α : Type} {d : Document}

/-- A text that must be there. Where the rule for it leaves out the empty text, being there is no
rule of its own. -/
theorem judges_required {field : String} {value : Option String} {holds : Prop} {rules : List Rule}
    {result : α → Prop} {f : String → Except SettingsError α} (hEmpty : bare value = "" → ¬ holds)
    (hf : Judges SettingsError.key? (⟨field, holds⟩ :: rules) result (f (bare value))) :
    Judges SettingsError.key? (⟨field, holds⟩ :: rules) result (required field value >>= f) := by
  unfold required
  dsimp only
  split
  next hNone => exact .first (hEmpty hNone) rfl
  next => exact hf

/-- A default that keeps the rule itself leaves the rule for what is there. -/
theorem getD_iff {P : α → Prop} {default : α} (hDefault : P default) {value : Option α} :
    P (value.getD default) ↔ ∀ a ∈ value, P a := by
  cases value with
  | none => simpa using hDefault
  | some a => simp

theorem judges_deploymentPrefix {name : String} :
    Judges SettingsError.key?
      [⟨"namePrefix", Naming.BeginsWithLetter (fun c => isAlnum c) name⟩] (· = ())
      (Naming.checkDeploymentPrefix name) :=
  .ite Naming.isDeploymentPrefix_iff rfl

theorem judges_identifier {field : String} {extra : Char} {name : String}
    (hExtra : extra.utf8Size = 1) :
    Judges SettingsError.key? [⟨field, Naming.IsIdentifier extra name⟩] (· = ())
      (Naming.checkIdentifier field extra name) :=
  .ite (Naming.isIdentifier_iff hExtra) rfl

theorem judges_dnsName {field name : String} {minLabels : Nat} {holds : Prop}
    (hRule : Naming.IsDnsName minLabels name ↔ holds) :
    Judges SettingsError.key? [⟨field, holds⟩] (· = ())
      (Naming.checkDnsName field minLabels name) :=
  .ite (Naming.isDnsName_iff.trans hRule) rfl

theorem judges_imageTag {tag : String} {holds : Prop} (hRule : Naming.IsImageTag tag ↔ holds) :
    Judges SettingsError.key? [⟨"ecrRepositoryTag", holds⟩] (· = ())
      (Naming.checkImageTag tag) :=
  .ite (Naming.isImageTag_iff.trans hRule) rfl

theorem judges_region {field raw : String} {holds : Prop} (hRule : Region.IsName raw ↔ holds) :
    Judges SettingsError.key? [⟨field, holds⟩] (· = ⟨raw⟩) (Region.parse field raw) :=
  .ite (Region.isName_iff.trans hRule) rfl

theorem judges_regions {field : String} {value : Option String} :
    Judges SettingsError.key? [⟨field, ∀ name ∈ value, Region.IsName name⟩]
      (· = value.map Region.mk) (value.mapM (Region.parse field)) := by
  cases value with
  | none => exact .given (by simp) (.pure rfl)
  | some name =>
      have hParse : Judges SettingsError.key? [⟨field, ∀ name' ∈ some name, Region.IsName name'⟩]
          (· = ⟨name⟩) (Region.parse field name) := judges_region (by simp)
      exact hParse.cons fun _ hEq => .pure (by rw [hEq, Option.map_some])

/-- A host that is blank counts as none. -/
theorem judges_host {value : Option String} :
    Judges SettingsError.key?
      [⟨"dnsDomainHost", bare value = "" ∨ Naming.IsDnsName 1 (bare value)⟩] (· = ())
      ((trimmed? value).forM (Naming.checkDnsName "dnsDomainHost" 1)) := by
  rw [trimmed?_eq]
  split
  next hBlank => exact .given (.inl hBlank) (.pure rfl)
  next hText =>
    rw [Option.forM_eq_forM, Option.forM_some]
    exact judges_dnsName (or_iff_right hText).symm

/-- A size on offer is found by its processor units, since no two have the same. -/
theorem judges_taskSize {cpu memory : Nat} :
    Judges SettingsError.key?
      [⟨"fargateCpu", ∃ size ∈ TaskSize.table, size.cpu = cpu⟩,
        ⟨"fargateMemoryLimit", TaskSize.IsOffered cpu memory⟩]
      (· = ()) (TaskSize.check cpu memory) := by
  unfold TaskSize.check
  split
  next hNone =>
    refine .first ?_ rfl
    rintro ⟨size, hMem, hCpu⟩
    simpa [hCpu] using List.find?_eq_none.mp hNone size hMem
  next size hSome =>
    have hMem := List.mem_of_find?_eq_some hSome
    have hCpu : size.cpu = cpu := by simpa using List.find?_some hSome
    refine .given ⟨size, hMem, hCpu⟩ (.ite ?_ rfl)
    rw [TaskSize.accepts_iff]
    constructor
    · exact fun hMemory => ⟨size, hMem, hCpu, hMemory⟩
    · rintro ⟨other, hOther, hSame, hMemory⟩
      have hNodup : (TaskSize.table.map TaskSize.cpu).Nodup := by decide
      have hEq : other = size :=
        List.inj_on_of_nodup_map hNodup hOther hMem (hSame.trans hCpu.symm)
      rwa [← hEq]

/-- Whatever is wrong with an ingress source, the error names the key of the sources. -/
theorem key?_of_parse_eq_error {source : String} {e : SettingsError}
    (h : Peer.parse source = .error e) : e.key? = some "dbIngressSources" := by
  have hRefuse : ∀ reason, Peer.refuse reason = .error e → e.key? = some "dbIngressSources" := by
    intro reason hEq
    cases hEq
    rfl
  unfold Peer.parse Peer.parseTrimmed Peer.parseRange at h
  repeat' split at h
  all_goals first | exact hRefuse _ h | cases h

theorem judges_peers {sources : List String} :
    Judges SettingsError.key?
      [⟨"dbIngressSources", ∀ source ∈ sources, ∃ peer, Peer.parse source = .ok peer⟩]
      (fun peers => sources.map Peer.parse = peers.map .ok) (sources.mapM Peer.parse) := by
  cases hPeers : sources.mapM Peer.parse with
  | ok peers =>
      rw [mapM_eq_ok_iff] at hPeers
      refine .given (fun source hMem => ?_) (.pure hPeers)
      have hParsed := List.mem_map_of_mem (f := Peer.parse) hMem
      rw [hPeers] at hParsed
      obtain ⟨peer, -, hPeer⟩ := List.mem_map.mp hParsed
      exact ⟨peer, hPeer.symm⟩
  | error e =>
      obtain ⟨source, hMem, hError⟩ := exists_of_mapM_eq_error hPeers
      refine .first (fun hAll => ?_) (key?_of_parse_eq_error hError)
      obtain ⟨peer, hOk⟩ := hAll source hMem
      rw [hOk] at hError
      cases hError

/-! ### The parts of a document -/

theorem judges_scopeSettings :
    Judges SettingsError.key? d.scopeRules
      (· = (⟨bare d.namePrefix, ⟨d.region.getD "us-east-1"⟩⟩, d.maxAzs.getD 3))
      d.scopeSettings := by
  unfold scopeSettings scopeRules
  refine judges_required ?_ ?_
  · rintro hEmpty ⟨first, rest, hChars, -⟩
    rw [hEmpty] at hChars
    cases hChars
  · refine judges_deploymentPrefix.cons fun _ _ => ?_
    refine .cons (judges_region (getD_iff (Region.isName_iff.mp (by decide)))) fun _ hEq => ?_
    subst hEq
    refine .guard ?_ rfl (.pure rfl)
    rw [not_or, Nat.not_lt, Nat.not_lt]
    exact getD_iff (P := fun n => 1 ≤ n ∧ n ≤ 3) (by decide)

theorem judges_dnsSettings :
    Judges SettingsError.key? d.dnsRules
      (· = ⟨bare d.dnsDomain, trimmed? d.dnsDomainHost, d.dnsDomainEnableRoot.getD false⟩)
      d.dnsSettings := by
  unfold dnsSettings dnsRules
  refine judges_required ?_ ?_
  · intro hEmpty
    rw [hEmpty, ← Naming.isDnsName_iff]
    decide
  · refine (judges_dnsName Iff.rfl).cons fun _ _ => ?_
    exact judges_host.cons fun _ _ => .pure rfl

/-- Counts are moved between their floor and the greatest number of thirty-two bits. -/
theorem atLeast_eq (floor : Nat) (count : Option Int) (h : floor ≤ Bounds.nat32) :
    (atLeast floor count : Int) = min (max (floor : Int) (count.getD floor)) Bounds.nat32 := by
  unfold atLeast
  cases count with
  | none =>
      dsimp only [Option.getD_none]
      omega
  | some n =>
      dsimp only [Option.getD_some]
      split <;> omega

theorem judges_databaseSettings {engine : Engine} :
    Judges SettingsError.key? d.databaseRules
      (fun s => ∃ ingress, (d.dbIngressSources.getD []).map Peer.parse = ingress.map .ok ∧
        s =
          { engine, ingress
            name := d.dbName.getD (lower (bare d.namePrefix))
            username := d.dbUsername.getD "dbadmin"
            instanceType := d.dbInstanceType.getD "t4g.medium"
            replicas := atLeast minReplicas d.dbReplicaInstances
            backupWindow := trimmed? d.dbBackupWindow
            retentionDays := atLeast minRetentionDays d.dbBackupRetentionDays
            maintenanceWindow := trimmed? d.dbPreferredMaintenanceWindow
            babelfish := d.dbEnableBabelfish.getD false })
      (d.databaseSettings engine (bare d.namePrefix)) := by
  unfold databaseSettings databaseRules
  refine (judges_identifier (by decide)).cons fun _ _ => ?_
  refine (judges_identifier (by decide)).cons fun _ _ => ?_
  refine .guard (getD_iff (P := fun type => trim type ≠ "") (by decide)) rfl ?_
  exact judges_peers.cons fun ingress hIngress => .pure ⟨ingress, hIngress, rfl⟩

theorem judges_webSettings :
    Judges SettingsError.key? d.webRules
      (· = ⟨d.fargateCpu.getD 256, d.fargateMemoryLimit.getD 512, d.fargateInstances.getD 1,
        d.ecrRepositoryTag.getD "latest", d.cfOriginShieldRegion.map Region.mk⟩) d.webSettings := by
  unfold webSettings webRules
  refine judges_taskSize.bind fun _ _ => ?_
  refine .guard ?_ rfl ?_
  · cases d.fargateInstances <;> simp
  refine .cons (judges_imageTag (getD_iff (Naming.isImageTag_iff.mp (by decide)))) fun _ _ => ?_
  refine judges_regions.cons fun _ hEq => ?_
  subst hEq
  exact .pure rfl

/-! ### Whole documents -/

theorem judges_orSettings {rules : List Rule} {result : α → Prop} {x : Except SettingsError α}
    (hx : Judges SettingsError.key? rules result x) :
    Judges ModelError.key? rules result (orSettings x) := by
  cases hx with
  | passed hRules hResult => exact .passed hRules hResult
  | failed hRules hBefore hBroken hKey => exact .failed hRules hBefore hBroken hKey

theorem judges_engine :
    Judges ModelError.key? [d.engineRule] (fun engine => engine.name = bare d.dbEngine)
      d.engine := by
  have hParse : Judges ModelError.key? [d.engineRule] (fun engine => engine.name = bare d.dbEngine)
      (Engine.parse (bare d.dbEngine)) := by
    unfold Engine.parse
    split
    next hMysql => exact .given (.inl hMysql) (.pure hMysql.symm)
    next hOther =>
      split
      next hPostgresql => exact .given (.inr hPostgresql) (.pure hPostgresql.symm)
      next hNeither => exact .first (not_or_intro hOther hNeither) rfl
  unfold Document.engine
  by_cases hEmpty : bare d.dbEngine = ""
  · rw [show required "dbEngine" d.dbEngine = .error (.missing "dbEngine") from if_pos hEmpty]
    refine .first ?_ rfl
    rw [engineRule, hEmpty]
    decide
  · rw [show required "dbEngine" d.dbEngine = .ok (bare d.dbEngine) from if_neg hEmpty]
    simpa only [orSettings, bind, Except.bind] using hParse

theorem judges_validate : Judges ModelError.key? d.rules d.Means d.validate := by
  unfold validate rules
  refine judges_engine.cons fun engine hEngine => ?_
  refine (judges_orSettings judges_scopeSettings).bind fun _ hScope => ?_
  subst hScope
  refine (judges_orSettings judges_dnsSettings).bind fun _ hDns => ?_
  subst hDns
  refine (judges_orSettings judges_databaseSettings).bind fun _ hDatabase => ?_
  obtain ⟨ingress, hIngress, rfl⟩ := hDatabase
  refine (judges_orSettings judges_webSettings).map fun _ hWeb => ?_
  subst hWeb
  -- Reducible transparency keeps the trimming of texts from being evaluated.
  exact {
    scope := rfl, maxAzs := rfl, domain := rfl, host := by with_reducible rfl, root := rfl
    engine := hEngine, name := rfl, username := rfl, instanceType := rfl
    replicas := atLeast_eq minReplicas _ (by decide)
    retention := atLeast_eq minRetentionDays _ (by decide)
    backupWindow := by with_reducible rfl, maintenanceWindow := by with_reducible rfl
    ingress := hIngress, babelfish := rfl, email := rfl, cpu := rfl, memory := rfl
    instances := rfl, imageTag := rfl, shieldRegion := rfl }

theorem rules_of_validate {s : Settings} (h : d.validate = .ok s) :
    ∀ rule ∈ d.rules, rule.holds :=
  (judges_validate (d := d)).ok_iff.mp ⟨s, h⟩

theorem means_of_validate {s : Settings} (h : d.validate = .ok s) : d.Means s := by
  have hJudged : Judges ModelError.key? d.rules d.Means d.validate := judges_validate
  rw [h] at hJudged
  exact hJudged.result_of_ok

/-- Validation decides the configuration language. It accepts exactly the documents that keep all
rules and gives the settings that they mean; of any other document it names the key of the first
rule that is broken. -/
theorem validate_decides (d : Document) :
    ((∃ s, d.validate = .ok s) ↔ ∀ rule ∈ d.rules, rule.holds) ∧
    (∀ s, d.validate = .ok s → d.Means s) ∧
    (∀ e, d.validate = .error e → ∃ before rule after, d.rules = before ++ rule :: after ∧
      (∀ earlier ∈ before, earlier.holds) ∧ ¬ rule.holds ∧ e.key? = some rule.key) := by
  have hJudged : Judges ModelError.key? d.rules d.Means d.validate := judges_validate
  refine ⟨hJudged.ok_iff, fun s hOk => ?_, fun e hError => ?_⟩
  · rw [hOk] at hJudged
    cases hJudged with
    | passed hRules hResult => exact hResult
  · rw [hError] at hJudged
    cases hJudged with
    | failed hRules hBefore hBroken hKey => exact ⟨_, _, _, hRules, hBefore, hBroken, hKey⟩

end Document

end Blueprint
