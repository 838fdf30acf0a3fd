import Blueprint.Assembly
import Blueprint.Error.Record

/-!
An overview of an assembly: what its topologies declare, whether they pass their checks, and which
references they hold.
-/

namespace Blueprint

/-- The JSON form of the result of a check. -/
def verdict : Except ModelError Unit → Json
  | .ok () => .str "valid"
  | .error e => (Failure.model e).toJson

namespace Topology

def overview (t : Topology) : Json :=
  Json.object
    [("name", .str t.name), ("region", .str t.region.name), ("cross", .bool t.crossRegion),
      ("dependencies", .strs t.dependencies),
      ("resources", .arr (t.resources.map fun r =>
        .arr [.str r.id.text, .str r.spec.kind, .bool r.retained])),
      ("outputs", .strs (t.outputs.map Output.id)), ("validate", verdict t.validate)]

/-- The references of a topology: all of them by their tokens, and what is known of those to other
topologies. -/
def referenceOverview (t : Topology) : Json :=
  Json.object
    [("name", .str t.name), ("all", .strs (t.references.map Reference.token)),
      ("foreign", .arr (t.foreignReferences.map Reference.row))]

end Topology

def Assembly.overview (a : Assembly) : Json :=
  Json.object
    [("names", .strs a.names), ("resources", .nat a.resourceCount),
      ("validate", verdict a.validate), ("topologies", .arr (a.topologies.map Topology.overview))]

end Blueprint
