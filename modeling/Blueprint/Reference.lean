import Blueprint.Error
import Blueprint.Json
import Blueprint.Region
import Blueprint.Text.Ascii

/-!
Identifiers of resources and references to their attributes. An identifier is made of letters and
digits, at most 255 of them. A reference names a resource by the topology that declares it and
carries the region of that topology, so a reader can tell whether it crosses regions.
-/

namespace Blueprint

/-- The rule for identifiers: one to 255 letters and digits. -/
def IsResourceId (text : String) : Prop :=
  text ≠ "" ∧ Text.byteCount text ≤ 255 ∧ text.toList.all Text.isAlnum = true

instance (text : String) : Decidable (IsResourceId text) :=
  inferInstanceAs (Decidable (_ ∧ _ ∧ _))

/-- The identifier of a resource within its topology. -/
structure ResourceId where
  text : String
  isResourceId : IsResourceId text
  deriving DecidableEq

namespace ResourceId

/-- An identifier written out in a program. -/
def lit (text : String) (h : IsResourceId text := by decide) : ResourceId := ⟨text, h⟩

/-- The identifier with a text. The first broken rule is the one that is told. -/
def ofString (text : String) : Except ModelError ResourceId :=
  if h : IsResourceId text then .ok ⟨text, h⟩
  else if text = "" then .error (.invalidIdentifier text "identifier is empty")
  else if 255 < Text.byteCount text then
    .error (.invalidIdentifier text "identifier is longer than 255 characters")
  else .error (.invalidIdentifier text "only ASCII letters and digits are allowed")

/-- The identifier that remains of a text without hyphens, underscores and spaces. -/
def sanitized (raw : String) : Except ModelError ResourceId :=
  ofString (String.ofList (raw.toList.filter fun c => !(c = '-' || c = '_' || c = ' ')))

/-- The identifier with a text, none when the text is not one. -/
def ofString? (text : String) : Option ResourceId :=
  if h : IsResourceId text then some ⟨text, h⟩ else none

end ResourceId

/-- An attribute of a resource. -/
structure Reference where
  /-- The name of the topology that declares the resource. -/
  topology : String
  /-- The region of that topology. -/
  region : Region
  resource : ResourceId
  attr : String
  /-- Whether the reference is known to be used in another region. -/
  crossRegion : Bool
  deriving DecidableEq

namespace Reference

/-- The same resource under another attribute. -/
def withAttr (r : Reference) (attr : String) : Reference := { r with attr }

/-- The text under which the attribute is offered to other topologies. -/
def exportKey (r : Reference) : String :=
  s!"{r.topology}:{r.resource.text}:{r.attr}"

/-- The text that stands for the attribute in displayed values. -/
def token (r : Reference) : String :=
  "$\x7b" ++ r.topology ++ "." ++ r.resource.text ++ "." ++ r.attr ++ "\x7d"

def toJson (r : Reference) : Json :=
  Json.object
    [("topology", .str r.topology), ("region", .str r.region.name),
      ("resource", .str r.resource.text), ("attribute", .str r.attr),
      ("crossRegion", .bool r.crossRegion)]

/-- The token of a reference, its region, and whether it is used in another one. -/
def row (r : Reference) : Json :=
  .arr [.str r.token, .str r.region.name, .bool r.crossRegion]

/-- The reference with the given fields, none when one of them has the wrong form. -/
def ofFields? (topology region resource attr crossRegion : Json) : Option Reference :=
  match topology, region, resource, attr, crossRegion with
  | .str topology, .str region, .str resource, .str attr, .bool crossRegion =>
    (ResourceId.ofString? resource).map fun id => ⟨topology, ⟨region⟩, id, attr, crossRegion⟩
  | _, _, _, _, _ => none

/-- The reference that a JSON value denotes. The fields are the members of an object or the items
of an array in their order; the mark for another region may be left out. -/
def ofJson? : Json → Option Reference
  | .obj members => do
    let object := Json.obj members
    ofFields? (← object.member? "topology") (← object.member? "region")
      (← object.member? "resource") (← object.member? "attribute")
      ((object.member? "crossRegion").getD (.bool false))
  | .arr [topology, region, resource, attr] =>
    ofFields? topology region resource attr (.bool false)
  | .arr [topology, region, resource, attr, crossRegion] =>
    ofFields? topology region resource attr crossRegion
  | _ => none

end Reference

end Blueprint
