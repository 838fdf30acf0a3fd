import Blueprint.Reference
import Blueprint.Text.Quoted

/-!
Values of properties. A value is known now, or it is an attribute that exists only once the
deployment has been made, or it is put together from such parts. The JSON form of a value is an
object with one member, named for the kind of value.
-/

namespace Blueprint

/-- A value of a property, an output or an environment variable. -/
inductive Value where
  | literal (text : String)
  | ref (reference : Reference)
  /-- The parts with a separator between them. -/
  | join (separator : String) (parts : List Value)
  /-- The items of a list value with a separator between them. -/
  | joinList (separator : String) (list : Value)

namespace Value

instance : Inhabited Value := ⟨.literal ""⟩

/-- The parts one after the other. -/
def concat (parts : List Value) : Value := .join "" parts

/-- The text of a value that is known now. -/
def literal? : Value → Option String
  | .literal text => some text
  | _ => none

mutual

/-- The references in a value, from left to right. -/
def references : Value → List Reference
  | .literal _ => []
  | .ref reference => [reference]
  | .join _ parts => referencesOf parts
  | .joinList _ list => references list

/-- The references in some values, from left to right. -/
def referencesOf : List Value → List Reference
  | [] => []
  | part :: parts => references part ++ referencesOf parts

end

mutual

/-- The text of a value for display, where a token stands for every reference. -/
def display : Value → String
  | .literal text => text
  | .ref reference => reference.token
  | .join separator parts => String.intercalate separator (displays parts)
  | .joinList separator list => "join(" ++ Text.quoted separator ++ ", " ++ display list ++ ")"

/-- The texts of some values. -/
def displays : List Value → List String
  | [] => []
  | part :: parts => display part :: displays parts

end

mutual

def toJson : Value → Json
  | .literal text => Json.object [("literal", .str text)]
  | .ref reference => Json.object [("ref", reference.toJson)]
  | .join separator parts =>
    Json.object
      [("join", Json.object [("separator", .str separator), ("parts", .arr (toJsons parts))])]
  | .joinList separator list =>
    Json.object
      [("joinList", Json.object [("separator", .str separator), ("list", toJson list)])]

def toJsons : List Value → List Json
  | [] => []
  | part :: parts => toJson part :: toJsons parts

end

mutual

/-- The value that a JSON value denotes, none when it denotes none. -/
def ofJson? : Json → Option Value
  | .obj [(kind, .str text)] => if kind = "literal" then some (.literal text) else none
  | .obj [(kind, .arr items)] =>
    if kind = "ref" then (Reference.ofJson? (.arr items)).map .ref else none
  | .obj [(kind, .obj members)] =>
    if kind = "ref" then (Reference.ofJson? (.obj members)).map .ref
    else if kind = "join" then
      match (Json.obj members).member? "separator", partsIn? members with
      | some (.str separator), some parts => some (.join separator parts)
      | _, _ => none
    else if kind = "joinList" then
      match (Json.obj members).member? "separator", listIn? members with
      | some (.str separator), some list => some (.joinList separator list)
      | _, _ => none
    else none
  | _ => none

/-- The values of the items under `parts`. -/
def partsIn? : List (String × Json) → Option (List Value)
  | [] => none
  | (key, .arr items) :: rest => if key = "parts" then ofItems? items else partsIn? rest
  | (key, _) :: rest => if key = "parts" then none else partsIn? rest

/-- The value under `list`. -/
def listIn? : List (String × Json) → Option Value
  | [] => none
  | (key, json) :: rest => if key = "list" then ofJson? json else listIn? rest

/-- The values that all items of an array denote. -/
def ofItems? : List Json → Option (List Value)
  | [] => some []
  | item :: rest =>
    match ofJson? item, ofItems? rest with
    | some value, some values => some (value :: values)
    | _, _ => none

end

mutual

/-- The references in a JSON value: every object whose only member is a reference under `ref`,
in the order in which the members and items stand. -/
def scan : Json → List Reference
  | .obj [(key, json)] =>
    match if key = "ref" then Reference.ofJson? json else none with
    | some reference => [reference]
    | none => scan json
  | .obj members => scanMembers members
  | .arr items => scanItems items
  | _ => []

def scanMembers : List (String × Json) → List Reference
  | [] => []
  | (_, json) :: rest => scan json ++ scanMembers rest

def scanItems : List Json → List Reference
  | [] => []
  | item :: rest => scan item ++ scanItems rest

end

end Value

end Blueprint
