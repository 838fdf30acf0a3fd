import Blueprint.Json.Typed

/-!
The settings document as it is written: twenty-two keys, each of which may be missing. A key that is
null counts as missing, and keys that are not known are passed over. A known key that stands twice
makes the document unreadable, as does a value of the wrong type.
-/

namespace Blueprint

/-- The keys of a settings document. -/
structure Document where
  namePrefix : Option String := none
  region : Option String := none
  maxAzs : Option Nat := none
  dnsDomain : Option String := none
  dnsDomainHost : Option String := none
  dnsDomainEnableRoot : Option Bool := none
  dbEngine : Option String := none
  dbName : Option String := none
  dbUsername : Option String := none
  dbInstanceType : Option String := none
  dbReplicaInstances : Option Int := none
  dbBackupWindow : Option String := none
  dbBackupRetentionDays : Option Int := none
  dbPreferredMaintenanceWindow : Option String := none
  dbIngressSources : Option (List String) := none
  dbEnableBabelfish : Option Bool := none
  sesEmailEnabled : Option Bool := none
  fargateCpu : Option Nat := none
  fargateMemoryLimit : Option Nat := none
  fargateInstances : Option Nat := none
  ecrRepositoryTag : Option String := none
  cfOriginShieldRegion : Option String := none
  deriving DecidableEq

namespace Document

/-- The keys, in the order in which a document without keys lists their values. -/
def keys : List String :=
  ["namePrefix", "region", "maxAzs", "dnsDomain", "dnsDomainHost", "dnsDomainEnableRoot",
    "dbEngine", "dbName", "dbUsername", "dbInstanceType", "dbReplicaInstances",
    "dbBackupWindow", "dbBackupRetentionDays", "dbPreferredMaintenanceWindow",
    "dbIngressSources", "dbEnableBabelfish", "sesEmailEnabled", "fargateCpu",
    "fargateMemoryLimit", "fargateInstances", "ecrRepositoryTag", "cfOriginShieldRegion"]

/-- The value under a key: nothing for a key that is missing or null. -/
def field? {α : Type} (value? : Json → Option α) (members : List (String × Json)) (key : String) :
    Option (Option α) :=
  match members.lookup key with
  | none | some .null => some none
  | some json => (value? json).map some

def ofMembers? (members : List (String × Json)) : Option Document := do
  let text := field? Json.text? members
  let bool := field? Json.bool? members
  let int := field? Json.int64? members
  let nat32 := field? (Json.natUpTo? Bounds.nat32) members
  return {
    namePrefix := ← text "namePrefix"
    region := ← text "region"
    maxAzs := ← field? (Json.natUpTo? 255) members "maxAzs"
    dnsDomain := ← text "dnsDomain"
    dnsDomainHost := ← text "dnsDomainHost"
    dnsDomainEnableRoot := ← bool "dnsDomainEnableRoot"
    dbEngine := ← text "dbEngine"
    dbName := ← text "dbName"
    dbUsername := ← text "dbUsername"
    dbInstanceType := ← text "dbInstanceType"
    dbReplicaInstances := ← int "dbReplicaInstances"
    dbBackupWindow := ← text "dbBackupWindow"
    dbBackupRetentionDays := ← int "dbBackupRetentionDays"
    dbPreferredMaintenanceWindow := ← text "dbPreferredMaintenanceWindow"
    dbIngressSources := ← field? (Json.list? Json.text?) members "dbIngressSources"
    dbEnableBabelfish := ← bool "dbEnableBabelfish"
    sesEmailEnabled := ← bool "sesEmailEnabled"
    fargateCpu := ← nat32 "fargateCpu"
    fargateMemoryLimit := ← nat32 "fargateMemoryLimit"
    fargateInstances := ← nat32 "fargateInstances"
    ecrRepositoryTag := ← text "ecrRepositoryTag"
    cfOriginShieldRegion := ← text "cfOriginShieldRegion" }

/-- Whether a known key stands at most once among some members. -/
def isUnambiguous (members : List (String × Json)) : Bool :=
  keys.all fun key => (members.filter fun member => member.1 = key).length ≤ 1

/-- The document that a JSON value denotes: an object, or an array of all values in the order of
their keys. -/
def ofJson? : Json → Option Document
  | .obj members => if isUnambiguous members then ofMembers? members else none
  | .arr items => if items.length = keys.length then ofMembers? (keys.zip items) else none
  | _ => none

/-- An optional value in its JSON form. -/
def optional {α : Type} (json : α → Json) : Option α → Json
  | none => .null
  | some a => json a

/-- The values of a document in the order of its keys, null for those that are missing. -/
def values (d : Document) : List Json :=
  [optional .str d.namePrefix, optional .str d.region, optional .nat d.maxAzs,
    optional .str d.dnsDomain, optional .str d.dnsDomainHost,
    optional .bool d.dnsDomainEnableRoot, optional .str d.dbEngine, optional .str d.dbName,
    optional .str d.dbUsername, optional .str d.dbInstanceType,
    optional .int d.dbReplicaInstances, optional .str d.dbBackupWindow,
    optional .int d.dbBackupRetentionDays, optional .str d.dbPreferredMaintenanceWindow,
    optional .strs d.dbIngressSources, optional .bool d.dbEnableBabelfish,
    optional .bool d.sesEmailEnabled, optional .nat d.fargateCpu,
    optional .nat d.fargateMemoryLimit, optional .nat d.fargateInstances,
    optional .str d.ecrRepositoryTag, optional .str d.cfOriginShieldRegion]

def toJson (d : Document) : Json := Json.object (keys.zip d.values)

end Document

end Blueprint
