import Blueprint.Bounds
import Blueprint.Naming
import Blueprint.Settings
import Blueprint.Settings.Document
import Blueprint.TaskSize

/-!
From a document to settings. Missing keys get their defaults, counts below their floor are raised
to it, and everything that is malformed is refused before any resource is declared. An unknown
engine is told ahead of every other fault; after it the keys are checked in a fixed order and the
first fault is told.
-/

namespace Blueprint.Document

/-- The shortest time for which backups are kept. -/
def minRetentionDays : Nat := 14

/-- The least number of database machines. -/
def minReplicas : Nat := 1

/-- A value that must be there, without the blanks around it. -/
def required (field : String) (value : Option String) : Except SettingsError String :=
  let text := Text.trim (value.getD "")
  if text = "" then .error (.missing field) else .ok text

/-- A value without the blanks around it, where nothing but blanks counts as nothing. -/
def trimmed? (value : Option String) : Option String :=
  let text := Text.trim (value.getD "")
  if text = "" then none else some text

/-- A count that is at least `floor` and fits into thirty-two bits. -/
def atLeast (floor : Nat) : Option Int → Nat
  | none => floor
  | some n => if (floor : Int) < n then min n.toNat Bounds.nat32 else floor

/-- The settings of the domain. -/
def dnsSettings (d : Document) : Except SettingsError DnsSettings := do
  let domain ← required "dnsDomain" d.dnsDomain
  Naming.checkDnsName "dnsDomain" 2 domain
  let host := trimmed? d.dnsDomainHost
  host.forM (Naming.checkDnsName "dnsDomainHost" 1)
  return ⟨domain, host, d.dnsDomainEnableRoot.getD false⟩

/-- The settings of the database, for an engine and the beginning of all names. -/
def databaseSettings (d : Document) (engine : Engine) (scopeName : String) :
    Except SettingsError DatabaseSettings := do
  let name := d.dbName.getD (Text.lower scopeName)
  Naming.checkIdentifier "dbName" '-' name
  let username := d.dbUsername.getD "dbadmin"
  Naming.checkIdentifier "dbUsername" '_' username
  let instanceType := d.dbInstanceType.getD "t4g.medium"
  if Text.trim instanceType = "" then
    throw (.invalid "dbInstanceType" "must not be empty")
  let ingress ← (d.dbIngressSources.getD []).mapM Peer.parse
  return {
    engine, name, username, instanceType, ingress
    replicas := atLeast minReplicas d.dbReplicaInstances
    backupWindow := trimmed? d.dbBackupWindow
    retentionDays := atLeast minRetentionDays d.dbBackupRetentionDays
    maintenanceWindow := trimmed? d.dbPreferredMaintenanceWindow
    babelfish := d.dbEnableBabelfish.getD false }

def webSettings (d : Document) : Except SettingsError WebSettings := do
  let cpu := d.fargateCpu.getD 256
  let memory := d.fargateMemoryLimit.getD 512
  TaskSize.check cpu memory
  let instances := d.fargateInstances.getD 1
  if instances = 0 then
    throw (.invalid "fargateInstances" "at least one task must run")
  let imageTag := d.ecrRepositoryTag.getD "latest"
  Naming.checkImageTag imageTag
  let shieldRegion ← d.cfOriginShieldRegion.mapM (Region.parse "cfOriginShieldRegion")
  return ⟨cpu, memory, instances, imageTag, shieldRegion⟩

def orSettings {α : Type} : Except SettingsError α → Except ModelError α
  | .ok a => .ok a
  | .error e => .error (.settings e)

def engine (d : Document) : Except ModelError Engine := do
  Engine.parse (← orSettings (required "dbEngine" d.dbEngine))

/-- The beginning of all names, the region and the number of availability zones. -/
def scopeSettings (d : Document) : Except SettingsError (Scope × Nat) := do
  let name ← required "namePrefix" d.namePrefix
  Naming.checkDeploymentPrefix name
  let region ← Region.parse "region" (d.region.getD "us-east-1")
  let maxAzs := d.maxAzs.getD 3
  if maxAzs < 1 ∨ 3 < maxAzs then
    throw (.invalid "maxAzs" s!"{maxAzs} is outside 1..=3")
  return (⟨name, region⟩, maxAzs)

def validate (d : Document) : Except ModelError Settings := do
  let engine ← d.engine
  let (scope, maxAzs) ← orSettings d.scopeSettings
  let dns ← orSettings d.dnsSettings
  let database ← orSettings (d.databaseSettings engine scope.name)
  let web ← orSettings d.webSettings
  return { scope, maxAzs, dns, database, email := d.sesEmailEnabled.getD false, web }

end Blueprint.Document
