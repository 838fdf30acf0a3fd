import Blueprint.Assembly
import Blueprint.Template.Intrinsic

/-!
What each topology has to hand out because another one imports it. Attributes that are used in the
same region are exported as outputs; those that cross regions are written to parameters in the
region of the consumer.
-/

namespace Blueprint

/-- The attributes that topologies hand out, under the names of the topologies. -/
structure ExportPlan where
  /-- Exported attributes under their export keys. -/
  outputs : Dict (Dict Reference)
  /-- Attributes written to parameters, under the consumer's region and the parameter path. -/
  writers : Dict (Dict (Dict Reference))

namespace ExportPlan

/-- The plan that hands nothing out. -/
def empty : ExportPlan := ⟨.empty, .empty⟩

/-- The plan with one more attribute for a consumer in a region. -/
def add (plan : ExportPlan) (region : Region) (r : Reference) : ExportPlan :=
  if r.crossRegion then
    { plan with
      writers := plan.writers.alter r.topology fun regions =>
        (regions.getD .empty).alter region.name fun parameters =>
          (parameters.getD .empty).insert (Intrinsic.parameterPath r) r }
  else
    { plan with
      outputs := plan.outputs.alter r.topology fun exports =>
        (exports.getD .empty).insert r.exportKey r }

def collect (a : Assembly) : ExportPlan :=
  a.topologies.foldl
    (fun plan consumer =>
      consumer.foreignReferences.foldl (fun plan r => plan.add consumer.region r) plan)
    empty

end ExportPlan

end Blueprint
