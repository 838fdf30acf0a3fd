import Blueprint.Artifact
import Blueprint.Json.Printer
import Blueprint.Template.ExportPlan

/-!
Rendering an assembly: one template for each topology and a manifest. A template lists the declared
resources and outputs of its topology, and after them what the export plan adds for the topologies
that import from it.
-/

namespace Blueprint

namespace Template

def fileName (topology : String) : String := topology ++ ".template.json"

def resourceEntry (consumer : String) (resource : Resource) : Json :=
  match Intrinsic.resolve consumer resource.spec.toJson, resource.retained with
  | .obj members, true =>
    Json.object
      (members ++ [("DeletionPolicy", .str "Retain"), ("UpdateReplacePolicy", .str "Retain")])
  | json, _ => json

/-- The resource that writes attributes to parameters of a region. -/
def writerEntry (region : String) (parameters : Dict Reference) : String × Json :=
  ("ExportsWriter" ++ Intrinsic.alphanumeric region,
    Json.object
      [("Type", .str "Custom::CrossRegionExportWriter"),
        ("Properties",
          Json.object
            [("Region", .str region),
              ("Exports", .ofDict (parameters.map Intrinsic.ownAttribute))])])

def outputEntry (consumer : String) (output : Output) : String × Json :=
  (output.id,
    Json.object
      (("Value", Intrinsic.value consumer output.value) ::
        output.exportName.toList.map fun name =>
          ("Export", Json.object [("Name", .str name)])))

/-- The output that exports an attribute. -/
def exportEntry (key : String) (r : Reference) : String × Json :=
  (Intrinsic.exportName r,
    Json.object
      [("Value", Intrinsic.ownAttribute r), ("Export", Json.object [("Name", .str key)])])

/-- The parameter that holds an attribute of another region. -/
def parameterEntry (r : Reference) : String × Json :=
  (Intrinsic.parameterName r,
    Json.object
      [("Type", .str "AWS::SSM::Parameter::Value<String>"),
        ("Default", .str (Intrinsic.parameterPath r))])

/-- The resources of a template. Of entries with one name the last one stays. -/
def resources (t : Topology) (plan : ExportPlan) : Dict Json :=
  .ofList
    (t.resources.map (fun resource => (resource.id.text, resourceEntry t.name resource)) ++
      ((plan.writers.get? t.name).getD .empty).entries.map fun (region, parameters) =>
        writerEntry region parameters)

/-- The outputs of a template. Of entries with one name the last one stays. -/
def outputs (t : Topology) (plan : ExportPlan) : Dict Json :=
  .ofList
    (t.outputs.map (outputEntry t.name) ++
      ((plan.outputs.get? t.name).getD .empty).entries.map fun (key, r) => exportEntry key r)

def parameters (t : Topology) : Dict Json :=
  .ofList ((t.foreignReferences.filter Reference.crossRegion).map parameterEntry)

/-- A section of a template, left out when it has no entries. -/
def entriesOf? (name : String) (entries : Dict Json) : List (String × Json) :=
  if entries.isEmpty then [] else [(name, .ofDict entries)]

def ofTopology (t : Topology) (plan : ExportPlan) : Json :=
  Json.object
    ([("AWSTemplateFormatVersion", .str "2010-09-09"),
        ("Description", .str s!"{t.name} ({t.region.name})"),
        ("Resources", .ofDict (resources t plan))] ++
      entriesOf? "Parameters" (parameters t) ++ entriesOf? "Outputs" (outputs t plan))

end Template

/-- What a manifest says about the rendering itself. -/
structure RenderMetadata where
  assemblyId : String
  generatedAt : String
  toolVersion : String

namespace Assembly

def manifestEntry (t : Topology) : String × Json :=
  (t.name,
    Json.object
      [("type", .str "aws:cloudformation:stack"),
        ("environment", .str s!"aws://unknown-account/{t.region.name}"),
        ("properties",
          Json.object
            [("templateFile", .str (Template.fileName t.name)),
              ("crossRegionReferences", .bool t.crossRegion)]),
        ("dependencies", .strs t.dependencies)])

def manifest (a : Assembly) (metadata : RenderMetadata) : Json :=
  Json.object
    [("version", .str metadata.toolVersion), ("assemblyId", .str metadata.assemblyId),
      ("generatedAt", .str metadata.generatedAt), ("order", .strs a.names),
      ("artifacts", .ofDict (.ofList (a.topologies.map manifestEntry)))]

/-- The text of a rendered file. -/
def encode (compact : Bool) (json : Json) : String := if compact then json.compact else json.pretty

def artifact (compact : Bool) (file : String) (json : Json) : Except ModelError Artifact := do
  return ⟨← RelativePath.ofString file, encode compact json⟩

/-- The rendered files of an assembly: the templates in order, then the manifest. -/
def render (a : Assembly) (compact : Bool) (metadata : RenderMetadata) :
    Except ModelError ArtifactSet := do
  let plan := ExportPlan.collect a
  let templates ← a.topologies.mapM fun t =>
    artifact compact (Template.fileName t.name) (Template.ofTopology t plan)
  let manifest ← artifact compact manifestFile (a.manifest metadata)
  return ⟨templates ++ [manifest]⟩

end Assembly

end Blueprint
