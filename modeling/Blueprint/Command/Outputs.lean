import Blueprint.Command.Workplace
import Blueprint.Csv
import Blueprint.Json.Printer

/-! The command that lists the outputs of a deployment, as a table, as CSV or as JSON. -/

namespace Blueprint

/-- The JSON form of a reference with its members in the order of their meaning. -/
def Reference.listing (r : Reference) : Json :=
  .obj
    [("topology", .str r.topology), ("region", .str r.region.name),
      ("resource", .str r.resource.text), ("attribute", .str r.attr),
      ("crossRegion", .bool r.crossRegion)]

namespace Value

mutual

/-- The JSON form of a value with all members in the order of their meaning. -/
def listing : Value → Json
  | .literal text => .obj [("literal", .str text)]
  | .ref reference => .obj [("ref", reference.listing)]
  | .join separator parts =>
    .obj [("join", .obj [("separator", .str separator), ("parts", .arr (listings parts))])]
  | .joinList separator list =>
    .obj [("joinList", .obj [("separator", .str separator), ("list", listing list)])]

def listings : List Value → List Json
  | [] => []
  | part :: parts => listing part :: listings parts

end

end Value

/-- An output as it is listed. -/
structure OutputRow where
  topology : String
  id : String
  exportName : Option String
  value : Value

namespace OutputRow

/-- The rows of an assembly, or only those with an export name. -/
def ofAssembly (a : Assembly) (exported : Bool) : List OutputRow :=
  (a.outputs.filter fun (_, output) => !exported || output.exportName.isSome).map
    fun (t, output) => ⟨t.name, output.id, output.exportName, output.value⟩

def toJson (row : OutputRow) : Json :=
  .obj
    ([("topology", .str row.topology), ("id", .str row.id)] ++
      (row.exportName.toList.map fun name => ("exportName", .str name)) ++
      [("value", row.value.listing)])

def csvFields (row : OutputRow) : List String :=
  [row.topology, row.id, row.exportName.getD "", row.value.display]

/-- The line of a row in a table. The export name is told if it is not the identifier. -/
def tableLine (row : OutputRow) : String :=
  let line := s!"  {row.id} = {row.value.display}"
  match row.exportName with
  | some name => if name = row.id then line else s!"{line} (exported as {name})"
  | none => line

/-- The first record of a CSV listing. -/
def csvHeader : List String := ["topology", "id", "export", "value"]

def csvLines (rows : List OutputRow) : List String :=
  (csvHeader :: rows.map csvFields).map Csv.line

end OutputRow

namespace Command

open Script

/-- Write rows as a table, with a heading for each topology. -/
def writeTable (console : Console) (current : Option String) : List OutputRow → Script Unit
  | [] => return
  | row :: rest => do
    if current ≠ some row.topology then console.heading row.topology
    console.result row.tableLine
    writeTable console (some row.topology) rest

def listOutputs (w : Workplace) (exported : Bool) (format : ListingFormat) :
    Job CommandError Unit := do
  let d ← w.deployment
  let rows := OutputRow.ofAssembly d.assembly exported
  let console := w.console
  match if console.json then .json else format with
  | .json => console.result (Json.arr (rows.map OutputRow.toJson)).pretty
  | .csv => (OutputRow.csvLines rows).forM fun line => console.result line
  | .table =>
    writeTable console none rows
    if rows.isEmpty then console.info "No outputs declared"

end Command

end Blueprint
