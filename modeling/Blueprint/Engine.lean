import Blueprint.Error
import Blueprint.Network.Form

/-!
Database engines. Each engine is described once, by its profile: ports, versions and log exports
are data, so nothing else in the library branches on the engine.
-/

namespace Blueprint

/-- A database engine. -/
inductive Engine where
  | mysql
  | postgresql
  deriving DecidableEq

/-- A further port on which an engine listens. -/
structure AuxiliaryPort where
  port : Nat
  label : String
  deriving DecidableEq

/-- What the deployment has to know about an engine. -/
structure EngineProfile where
  engine : Engine
  /-- The port that clients connect to. -/
  port : Nat
  /-- The description of rules for that port. -/
  label : String
  auxiliaryPorts : List AuxiliaryPort
  kind : String
  family : String
  fullVersion : String
  majorVersion : String
  parameterFamily : String
  logExports : List String
  /-- The parameter that turns the Babelfish protocol on, where the engine has it. -/
  babelfish : Option (String × String)
  deriving DecidableEq

namespace Engine

/-- The name of an engine in settings and parameters. -/
def name : Engine → String
  | mysql => "mysql"
  | postgresql => "postgresql"

/-- The engine of a name, which must be written exactly. -/
def parse (raw : String) : Except ModelError Engine :=
  if raw = "mysql" then .ok mysql
  else if raw = "postgresql" then .ok postgresql
  else .error (.unsupportedEngine raw)

/-- The description of an engine. -/
def profile : Engine → EngineProfile
  | mysql =>
    { engine := mysql
      port := 3306
      label := "tcp3306 MySQL"
      auxiliaryPorts := []
      kind := "aurora-mysql"
      family := "MYSQL"
      fullVersion := "8.0.mysql_aurora.3.02.2"
      majorVersion := "8.0"
      parameterFamily := "aurora-mysql8.0"
      logExports := ["slowquery"]
      babelfish := none }
  | postgresql =>
    { engine := postgresql
      port := 5432
      label := "tcp5432 PostgresSQL"
      auxiliaryPorts := [⟨1433, "tcp1433"⟩]
      kind := "aurora-postgresql"
      family := "POSTGRESQL"
      fullVersion := "13.4"
      majorVersion := "13"
      parameterFamily := "aurora-postgresql13"
      logExports := ["postgresql"]
      babelfish := some ("rds.babelfish_status", "on") }

end Engine

/-- The JSON form of a further port. -/
def AuxiliaryPort.toJson (auxiliary : AuxiliaryPort) : Json :=
  .arr [.nat auxiliary.port, .str auxiliary.label, (PortRange.tcp auxiliary.port).toJson]

def EngineProfile.toJson (p : EngineProfile) : Json :=
  Json.object
    [("engine", .str p.engine.name), ("port", .nat p.port), ("connectionLabel", .str p.label),
      ("connectionPort", .str (PortRange.tcp p.port).text),
      ("auxiliary", .arr (p.auxiliaryPorts.map AuxiliaryPort.toJson)),
      ("type", .str p.kind), ("family", .str p.family), ("fullVersion", .str p.fullVersion),
      ("majorVersion", .str p.majorVersion), ("parameterGroupFamily", .str p.parameterFamily),
      ("logExports", .strs p.logExports),
      ("babelfish",
        match p.babelfish with
        | some (key, value) => .strs [key, value]
        | none => .null),
      ("supportsBabelfish", .bool p.babelfish.isSome)]

end Blueprint
