import Blueprint.Resource.Property

/-!
A topology: resources and outputs that are deployed together in one region. A topology that uses a
resource of another one imports the reference first, which records the dependency and marks the
reference when it crosses regions. `Topology.validate` checks that every embedded reference was
declared or imported that way.
-/

namespace Blueprint

/-- A value that a topology tells about itself, under an export name if others may look it up. -/
structure Output where
  id : String
  value : Value
  exportName : Option String

namespace Output

/-- An output whose export name is its own. -/
def exported (id : String) (value : Value) : Output := ⟨id, value, some id⟩

def exportedAs (id exportName : String) (value : Value) : Output := ⟨id, value, some exportName⟩

def toJson (output : Output) : Json :=
  Json.object
    ([("id", .str output.id), ("value", output.value.toJson)] ++
      output.exportName.toList.map fun name => ("exportName", .str name))

end Output

/-- Resources and outputs of one region. -/
structure Topology where
  name : String
  region : Region
  /-- Whether resources of other regions may be used. -/
  crossRegion : Bool
  /-- The topologies that resources were imported from, in the order of their first import. -/
  dependencies : List String
  resources : List Resource
  outputs : List Output

namespace Topology

/-- A topology without contents. -/
def new (name : String) (region : Region) : Topology := ⟨name, region, false, [], [], []⟩

/-- The topology with leave to use resources of other regions. -/
def allowCrossRegion (t : Topology) : Topology := { t with crossRegion := true }

/-- The resource with an identifier. -/
def resource? (t : Topology) (id : String) : Option Resource :=
  t.resources.find? fun resource => resource.id.text = id

/-- The output with an identifier. -/
def output? (t : Topology) (id : String) : Option Output :=
  t.outputs.find? fun output => output.id = id

/-- A reference to an attribute of a resource of the topology, declared or not. -/
def reference (t : Topology) (id : ResourceId) (attr : String) : Reference :=
  ⟨t.name, t.region, id, attr, false⟩

/-- Declare a resource and hand out the reference to it. An identifier that is taken is refused.
Either way there is a topology to go on with. -/
def declareResource (t : Topology) (resource : Resource) : Except ModelError Reference × Topology :=
  if t.resources.any fun other => other.id = resource.id then
    (.error (.duplicateResource t.name resource.id.text), t)
  else
    (.ok (t.reference resource.id Attribute.self),
      { t with resources := t.resources ++ [resource] })

/-- Declare an output. An identifier that is taken is refused. -/
def declareOutput (t : Topology) (output : Output) : Except ModelError Unit × Topology :=
  if (t.output? output.id).isSome then (.error (.duplicateOutput t.name output.id), t)
  else (.ok (), { t with outputs := t.outputs ++ [output] })

/-- The topology with a resource declared, for those who give up if it is refused. -/
def add (t : Topology) (resource : Resource) : Except ModelError Topology :=
  let (result, next) := t.declareResource resource
  result.map fun _ => next

/-- The topology with an output declared, for those who give up if it is refused. -/
def addOutput (t : Topology) (output : Output) : Except ModelError Topology :=
  let (result, next) := t.declareOutput output
  result.map fun _ => next

/-- The reference as the topology has to use it. A reference of another topology is marked when it
crosses regions; one of its own is kept. -/
def localized (t : Topology) (reference : Reference) : Reference :=
  if reference.topology = t.name then reference
  else { reference with crossRegion := reference.region ≠ t.region }

/-- The topology with the dependency recorded that a reference brings. -/
def dependOn (t : Topology) (reference : Reference) : Topology :=
  if reference.topology = t.name ∨ reference.topology ∈ t.dependencies then t
  else { t with dependencies := t.dependencies ++ [reference.topology] }

/-- Import a reference: the value to use for it, and the topology with the dependency recorded. -/
def importRef (t : Topology) (reference : Reference) : Value × Topology :=
  (.ref (t.localized reference), t.dependOn reference)

/-- The references in resources, found in the JSON forms of their declarations, then those in
outputs. -/
def references (t : Topology) : List Reference :=
  t.resources.flatMap (fun resource => Value.scan resource.spec.toJson) ++
    t.outputs.flatMap fun output => output.value.references

/-- The references to resources of other topologies. -/
def foreignReferences (t : Topology) : List Reference :=
  t.references.filter fun reference => reference.topology ≠ t.name

/-- The first element that stands in a list a second time. -/
def firstRepeated? {α : Type} [BEq α] (seen : List α) : List α → Option α
  | [] => none
  | a :: rest => if seen.contains a then some a else firstRepeated? (a :: seen) rest

/-- Check that a reference was declared or imported. -/
def checkReference (t : Topology) (reference : Reference) : Except ModelError Unit :=
  if reference.topology = t.name then
    if t.resources.any fun resource => resource.id = reference.resource then .ok ()
    else .error (.unknownResource t.name reference.resource.text)
  else if reference.topology ∉ t.dependencies then
    .error (.unresolvedDependency t.name reference.topology)
  else if reference.region ≠ t.region ∧ !(reference.crossRegion && t.crossRegion) then
    .error (.unmarkedCrossing t.name reference.token)
  else .ok ()

/-- Check that identifiers are unique and that every reference was declared or imported. -/
def validate (t : Topology) : Except ModelError Unit :=
  match firstRepeated? [] (t.resources.map fun resource => resource.id.text) with
  | some id => .error (.duplicateResource t.name id)
  | none =>
    match firstRepeated? [] (t.outputs.map Output.id) with
    | some id => .error (.duplicateOutput t.name id)
    | none => t.references.forM t.checkReference

def toJson (t : Topology) : Json :=
  Json.object
    [("name", .str t.name), ("region", .str t.region.name),
      ("crossRegionReferences", .bool t.crossRegion), ("dependencies", .strs t.dependencies),
      ("resources", .arr (t.resources.map Resource.toJson)),
      ("outputs", .arr (t.outputs.map Output.toJson))]

end Topology

end Blueprint
