import Blueprint.Dict

/-!
JSON values. The members of an object are a list, so a document in which a key stands twice can be
told from one in which it stands once; `Json.object` builds the canonical form, with every key once
and the keys in ascending order.

A number is kept as an integer when it is written as one and lies between `-2^63` and `2^64 - 1`.
Any other number has no further meaning here and is kept as its text. A string literal that names
half of a surrogate pair denotes no text; it is a value of its own, so that a reader can pass over
it where any value will do and refuse it where a text is asked for.
-/

namespace Blueprint

/-- A JSON value. -/
inductive Json where
  | null
  | bool (b : Bool)
  | int (n : Int)
  | real (text : String)
  | str (s : String)
  | unpaired
  | arr (items : List Json)
  | obj (members : List (String × Json))
  deriving Inhabited

namespace Json

/-- The object with the given members, in ascending order of their keys. Of members with one key,
the last one stays. -/
def object (members : List (String × Json)) : Json := .obj (Dict.ofList members).entries

/-- The object with the entries of a map as its members. -/
def ofDict (d : Dict Json) : Json := .obj d.entries

/-- An array of strings. -/
def strs (items : List String) : Json := .arr (items.map .str)

/-- A string, or null for none. -/
def optStr : Option String → Json
  | none => .null
  | some s => .str s

/-- A natural number. -/
def nat (n : Nat) : Json := .int n

/-- The last member with a key. Any value that is not an object has no members. -/
def member? (json : Json) (key : String) : Option Json :=
  match json with
  | .obj members => members.reverse.lookup key
  | _ => none

mutual

/-- The value with the members of every object in canonical form. -/
def canonical : Json → Json
  | .arr items => .arr (canonicalItems items)
  | .obj members => object (canonicalMembers members)
  | json => json

/-- `canonical` on each item of an array. -/
def canonicalItems : List Json → List Json
  | [] => []
  | item :: rest => canonical item :: canonicalItems rest

/-- `canonical` on the value of each member. -/
def canonicalMembers : List (String × Json) → List (String × Json)
  | [] => []
  | (key, value) :: rest => (key, canonical value) :: canonicalMembers rest

end

end Json

end Blueprint
