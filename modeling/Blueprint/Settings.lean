import Blueprint.Engine
import Blueprint.Network.Form
import Blueprint.Region
import Blueprint.Text.Ascii

/-!
Settings of a deployment. They are grouped by the topology that reads them, so each topology sees
only what concerns it.
-/

namespace Blueprint

/-- What all topologies of a deployment share. -/
structure Scope where
  /-- The beginning of all names. -/
  name : String
  region : Region
  deriving DecidableEq

def Scope.topologyName (scope : Scope) (suffix : String) : String := scope.name ++ suffix

/-- The domain under which the site is served. -/
structure DnsSettings where
  domain : String
  /-- The host below the domain. -/
  host : Option String
  /-- Whether the domain itself is served, too. -/
  root : Bool
  deriving DecidableEq

/-- Whether any name is served, so that a certificate is needed. -/
def DnsSettings.wantsCertificate (dns : DnsSettings) : Bool := dns.host.isSome || dns.root

structure DatabaseSettings where
  engine : Engine
  name : String
  username : String
  instanceType : String
  replicas : Nat
  backupWindow : Option String
  retentionDays : Nat
  maintenanceWindow : Option String
  ingress : List Peer
  babelfish : Bool
  deriving DecidableEq

structure WebSettings where
  cpu : Nat
  memory : Nat
  instances : Nat
  imageTag : String
  shieldRegion : Option Region
  deriving DecidableEq

/-- The settings of a deployment. -/
structure Settings where
  scope : Scope
  maxAzs : Nat
  dns : DnsSettings
  database : DatabaseSettings
  /-- Whether the deployment sends mail. -/
  email : Bool
  web : WebSettings
  deriving DecidableEq

namespace Settings

def databaseJson (database : DatabaseSettings) : Json :=
  .obj
    [("engine", .str database.engine.name), ("name", .str database.name),
      ("username", .str database.username), ("instanceType", .str database.instanceType),
      ("replicaInstances", .nat database.replicas),
      ("backupWindow", .optStr database.backupWindow),
      ("backupRetentionDays", .nat database.retentionDays),
      ("maintenanceWindow", .optStr database.maintenanceWindow),
      ("ingressSources", .arr (database.ingress.map Peer.toJson)),
      ("enableBabelfish", .bool database.babelfish)]

def webJson (web : WebSettings) : Json :=
  .obj
    [("cpu", .nat web.cpu), ("memoryLimit", .nat web.memory), ("instances", .nat web.instances),
      ("imageTag", .str web.imageTag),
      ("originShieldRegion", .optStr (web.shieldRegion.map Region.name))]

/-- The JSON form of settings, with all members in the order of their meaning. -/
def toJson (settings : Settings) : Json :=
  .obj
    [("scope",
        .obj
          [("namePrefix", .str settings.scope.name), ("region", .str settings.scope.region.name)]),
      ("network", .obj [("maxAzs", .nat settings.maxAzs)]),
      ("dns",
        .obj
          [("domain", .str settings.dns.domain), ("host", .optStr settings.dns.host),
            ("enableRoot", .bool settings.dns.root)]),
      ("database", databaseJson settings.database),
      ("email", .obj [("enabled", .bool settings.email)]),
      ("web", webJson settings.web)]

end Settings

end Blueprint
