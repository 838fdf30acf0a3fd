import Blueprint.Topology

/-!
An assembly: the topologies of one deployment, each after those that it depends on.
-/

namespace Blueprint

/-- The topologies of a deployment in the order of their declaration. -/
structure Assembly where
  topologies : List Topology

namespace Assembly

/-- The assembly without topologies. -/
def empty : Assembly := ⟨[]⟩

/-- The assembly with one more topology at its end. -/
def push (a : Assembly) (t : Topology) : Assembly := ⟨a.topologies ++ [t]⟩

def topology? (a : Assembly) (name : String) : Option Topology :=
  a.topologies.find? fun t => t.name = name

def names (a : Assembly) : List String := a.topologies.map Topology.name

/-- All outputs, with the topologies that declare them. -/
def outputs (a : Assembly) : List (Topology × Output) :=
  a.topologies.flatMap fun t => t.outputs.map fun output => (t, output)

/-- The first output with an identifier. -/
def output? (a : Assembly) (id : String) : Option Output :=
  (a.outputs.map Prod.snd).find? fun output => output.id = id

def export? (a : Assembly) (name : String) : Option Output :=
  (a.outputs.map Prod.snd).find? fun output => output.exportName = some name

/-- The number of declared resources. -/
def resourceCount (a : Assembly) : Nat := Text.total (a.topologies.map fun t => t.resources.length)

/-- What the check of an assembly has seen so far. -/
structure Checked where
  /-- The topologies before the present one, the nearest first. -/
  earlier : List Topology
  /-- The export names of those topologies. -/
  exports : List String

def Checked.topology? (seen : Checked) (name : String) : Option Topology :=
  seen.earlier.find? fun t => t.name = name

/-- Check that a dependency stands before the topology that has it. -/
def Checked.checkDependency (seen : Checked) (t : Topology) (name : String) :
    Except ModelError Unit :=
  if (seen.topology? name).isSome then .ok () else .error (.unresolvedDependency t.name name)

/-- Check that a reference leads to a resource of an earlier topology. -/
def Checked.checkForeign (seen : Checked) (reference : Reference) : Except ModelError Unit :=
  match (seen.topology? reference.topology).bind fun t =>
      t.resource? reference.resource.text with
  | some _ => .ok ()
  | none => .error (.unknownResource reference.topology reference.resource.text)

/-- The export names seen so far and those of a list of new ones, each of which must be new. -/
def addExports (exports : List String) : List String → Except ModelError (List String)
  | [] => .ok exports
  | name :: rest =>
    if name ∈ exports then .error (.duplicateExport name) else addExports (name :: exports) rest

/-- Check one topology against those before it. -/
def Checked.step (seen : Checked) (t : Topology) : Except ModelError Checked := do
  t.validate
  t.dependencies.forM (seen.checkDependency t)
  t.foreignReferences.forM seen.checkForeign
  let exports ← addExports seen.exports (t.outputs.filterMap Output.exportName)
  if (seen.topology? t.name).isSome then throw (.duplicateTopology t.name)
  return ⟨t :: seen.earlier, exports⟩

/-- Check the topologies one after the other. -/
def checkAll : Checked → List Topology → Except ModelError Unit
  | _, [] => .ok ()
  | seen, t :: rest => do checkAll (← seen.step t) rest

/-- Check every topology, and that names, exports and references fit together across them. -/
def validate (a : Assembly) : Except ModelError Unit := checkAll ⟨[], []⟩ a.topologies

def toJson (a : Assembly) : Json :=
  Json.object [("topologies", .arr (a.topologies.map Topology.toJson))]

end Assembly

end Blueprint
