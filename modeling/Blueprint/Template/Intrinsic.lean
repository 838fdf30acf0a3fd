import Blueprint.Resource

/-!
How values are written in a template. What a reference becomes depends on where it is used:

* in the topology that declares the resource, `Ref` or `Fn::GetAtt`;
* in another topology, `Fn::ImportValue` of the name under which the attribute is exported;
* across regions, `Ref` to a parameter that holds the attribute.

A join whose parts are all plain texts is written as one plain text.
-/

namespace Blueprint.Intrinsic

/-- The letters and digits of a text. -/
def alphanumeric (s : String) : String := String.ofList (s.toList.filter Text.isAlnum)

/-- The path of the parameter that holds an attribute in another region. -/
def parameterPath (r : Reference) : String :=
  s!"/tierstack/exports/{r.topology}/{r.resource.text}/{r.attr}"

/-- The name of a template parameter for an attribute of another region. -/
def parameterName (r : Reference) : String :=
  "Import" ++ r.topology ++ r.resource.text ++ alphanumeric r.attr

/-- The name of the template output that exports an attribute. -/
def exportName (r : Reference) : String :=
  "ExportsOutput" ++ r.resource.text ++ alphanumeric r.attr

/-- An attribute in the topology that declares the resource. -/
def ownAttribute (r : Reference) : Json :=
  if r.attr = Attribute.self then Json.object [("Ref", .str r.resource.text)]
  else Json.object [("Fn::GetAtt", .strs [r.resource.text, r.attr])]

/-- An attribute in the topology of a name. -/
def reference (consumer : String) (r : Reference) : Json :=
  if r.topology = consumer then ownAttribute r
  else if r.crossRegion then Json.object [("Ref", .str (parameterName r))]
  else Json.object [("Fn::ImportValue", .str r.exportKey)]

/-- The texts of some JSON values, none when one of them is not a text. -/
def texts? : List Json → Option (List String)
  | [] => some []
  | .str s :: rest => (texts? rest).map (s :: ·)
  | _ :: _ => none

/-- The parts of a join, with the separator between them. -/
def joined (separator : String) (parts : List Json) : Json :=
  match texts? parts with
  | some texts => .str (String.intercalate separator texts)
  | none => Json.object [("Fn::Join", .arr [.str separator, .arr parts])]

mutual

/-- A value in the topology of a name. -/
def value (consumer : String) : Value → Json
  | .literal text => .str text
  | .ref r => reference consumer r
  | .join separator parts => joined separator (values consumer parts)
  | .joinList separator list =>
    Json.object [("Fn::Join", .arr [.str separator, value consumer list])]

/-- Some values in the topology of a name. -/
def values (consumer : String) : List Value → List Json
  | [] => []
  | part :: parts => value consumer part :: values consumer parts

end

mutual

/-- A JSON value with every object that denotes a value written as that value, and without the
members that are null. -/
def resolve (consumer : String) : Json → Json
  | .obj members =>
    match Value.ofJson? (.obj members) with
    | some v => value consumer v
    | none => .obj (resolveMembers consumer members)
  | .arr items => .arr (resolveItems consumer items)
  | json => json

/-- `resolve` on the value of each member that is not null. -/
def resolveMembers (consumer : String) : List (String × Json) → List (String × Json)
  | [] => []
  | (_, .null) :: rest => resolveMembers consumer rest
  | (key, json) :: rest => (key, resolve consumer json) :: resolveMembers consumer rest

/-- `resolve` on each item. -/
def resolveItems (consumer : String) : List Json → List Json
  | [] => []
  | item :: rest => resolve consumer item :: resolveItems consumer rest

end

end Blueprint.Intrinsic
