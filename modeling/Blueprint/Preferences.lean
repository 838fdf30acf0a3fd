import Blueprint.Bounds
import Blueprint.Environment
import Blueprint.Machine.Script
import Blueprint.Sample
import Blueprint.Text.Real
import Blueprint.Text.Utf8
import Blueprint.Toml.Reader

/-!
The preferences of a user: where settings documents are read and where results go, unless a command
line says otherwise. They come from a file and from the environment, which counts more. In the
environment a value is written without its type; whatever reads as a truth value or a number is
taken for one first, and turned back into text where text is asked for.
-/

namespace Blueprint

/-- What a user prefers. -/
structure Preferences where
  /-- The settings document. -/
  document : String
  /-- Where results are written. -/
  outDir : String
  /-- The region for documents that name none. -/
  region : Option String
  noColour : Bool
  deriving DecidableEq

/-- The value of an entry. -/
inductive PreferenceValue where
  | bool (b : Bool)
  | int (n : Int)
  | real (x : Text.Real)
  | text (s : String)
  /-- A list or a table, of which no preference is one. -/
  | compound
  deriving DecidableEq

namespace PreferenceValue

def text? : PreferenceValue → Option String
  | bool b => some (if b then "true" else "false")
  | int n => some (toString n)
  | real x => some x.text
  | text s => some s
  | compound => none

def bool? : PreferenceValue → Option Bool
  | bool b => some b
  | int n => some (n ≠ 0)
  | real x => some !x.isZero
  | text s =>
    match Text.lower s with
    | "1" | "true" | "on" | "yes" => some true
    | "0" | "false" | "off" | "no" => some false
    | _ => none
  | compound => none

/-- The integer of sixty-four bits that a text writes. -/
def int64? (cs : List Char) : Option Int :=
  let (negative, digits) := match cs with
    | '+' :: rest => (false, rest)
    | '-' :: rest => (true, rest)
    | cs => (false, cs)
  let n : Int := Text.digitsValue 10 digits
  let value := if negative then -n else n
  if digits ≠ [] && digits.all Text.isDigit &&
      Bounds.leastInt64 ≤ value && value ≤ Bounds.greatestInt64 then some value
  else none

/-- The value of a text in the environment. -/
def ofVariable (s : String) : PreferenceValue :=
  match Text.lower s with
  | "true" => bool true
  | "false" => bool false
  | _ =>
    match int64? s.toList with
    | some n => int n
    | none =>
      match Text.Real.parse? s.toList with
      | some x => real x
      | none => text s

/-- The date or time of a word, with a capital letter between the two and after them. -/
def moment (cs : List Char) : String :=
  String.ofList (cs.map fun c => if c = 't' || c = ' ' then 'T' else if c = 'z' then 'Z' else c)

/-- The value of a number or a date in a file. None if the number is too large. -/
def ofWord? (word : String) : Option PreferenceValue :=
  let cs := word.toList
  if Toml.isMoment cs then some (text (moment cs))
  else if (Toml.based? cs).isSome || (Toml.plainInteger? cs).isSome then none
  else (Text.Real.parse? (cs.filter (· ≠ '_'))).map real

mutual

/-- Whether all numbers of a file can be read. -/
def isReadable : Json → Bool
  | .real word => (ofWord? word).isSome
  | .arr items => areReadable items
  | .obj members => membersReadable members
  | _ => true

/-- `isReadable` on all items of an array. -/
def areReadable : List Json → Bool
  | [] => true
  | item :: rest => isReadable item && areReadable rest

/-- `isReadable` on the values of all members. -/
def membersReadable : List (String × Json) → Bool
  | [] => true
  | (_, json) :: rest => isReadable json && membersReadable rest

end

/-- The value of an entry of a file. -/
def ofJson : Json → PreferenceValue
  | .bool b => bool b
  | .int n => int n
  | .real word => (ofWord? word).getD compound
  | .str s => text s
  | _ => compound

end PreferenceValue

namespace Preferences

/-- Values under their names. Of values with one name the last one counts. -/
abbrev Entries := List (String × PreferenceValue)

/-- The names that have a value from the start. An empty table changes nothing about it. -/
def settledNames : List String := ["stack_config", "out_dir", "no_color"]

/-- Whether a character may stand in the name of an entry. -/
def isNameChar (c : Char) : Bool := Text.isAlnum c || c = '_' || c = '-'

/-- Whether some characters lead from an entry to a part of it: names after dots, and places between
brackets. -/
def isPathInside (fuel : Nat) (cs : List Char) : Bool :=
  match fuel, cs with
  | _, [] => true
  | 0, _ => false
  | fuel + 1, '.' :: rest =>
    let name := rest.takeWhile isNameChar
    name ≠ [] && isPathInside fuel (rest.drop name.length)
  | fuel + 1, '[' :: rest =>
    match Text.cutChars ']' rest with
    | some (place, rest) =>
      let digits := if place.head? = some '-' then place.tail else place
      digits ≠ [] && digits.all Text.isDigit && isPathInside fuel rest
    | none => false
  | _, _ => false

/-- An entry under its name. An entry for a part of another one makes that one compound. -/
def placed (name : String) (value : PreferenceValue) : String × PreferenceValue :=
  let cs := name.toList
  let first := cs.takeWhile isNameChar
  let inside := cs.drop first.length
  if first ≠ [] && inside ≠ [] && isPathInside inside.length inside then
    (String.ofList first, .compound)
  else (name, value)

def fileEntries? (content : String) : Option Entries :=
  match Toml.parse? content with
  | some (.obj members) =>
    if PreferenceValue.membersReadable members then
      some (members.filterMap fun (name, json) =>
        match json with
        | .obj [] => if name ∈ settledNames then none else some (placed name .compound)
        | json => some (placed name (.ofJson json)))
    else none
  | _ => none

/-- The entries of the environment: variables whose names start with that of the program, in
letters of any case. -/
def variableEntries (env : Environment) : Entries :=
  env.entries.filterMap fun (name, value) =>
    (Text.after "tierstack_" (Text.lower name)).map fun name => placed name (.ofVariable value)

/-- The value under a name, read in some way, or else a default. -/
def get {α : Type} (entries : Entries) (read? : PreferenceValue → Option α) (name : String)
    (default : α) : Except String α :=
  match entries.reverse.lookup name with
  | none => .ok default
  | some value =>
    match read? value with
    | some a => .ok a
    | none => .error s!"{name} has a value of the wrong type"

def ofEntries (entries : Entries) : Except String Preferences := do
  let text := get entries PreferenceValue.text?
  return {
    document := ← text "stack_config" Sample.fileName
    outDir := ← text "out_dir" "cdk.out"
    region := ← get entries (fun value => value.text?.map some) "default_region" none
    noColour := ← get entries PreferenceValue.bool? "no_color" false }

/-- The directory for the files of programs, if the environment leads to one. -/
def configDir? (env : Environment) : Option String :=
  match (env.get? "XDG_CONFIG_HOME").filter Path.isAbsolute with
  | some directory => some directory
  | none => ((env.get? "HOME").filter (· ≠ "")).map fun home => Path.join home ".config"

def defaultFile (env : Environment) : String :=
  match configDir? env with
  | some directory => Path.join (Path.join directory "tierstack") "config.toml"
  | none => ".tierstack.toml"

/-- The path under which a file is looked for that is not at the path itself. -/
def withEnding? (path : String) : Option String :=
  (Path.fileName? path).map fun _ =>
    String.ofList (Path.trimEnd path.toList.reverse).reverse ++ ".toml"

/-- The contents of the file at a path, or else of the file of that name with an ending. -/
def readFile (path : String) : Script (Option ByteArray) := do
  match ← Script.read path with
  | .ok bytes => return some bytes
  | .error _ =>
    match withEnding? path with
    | none => return none
    | some path => return (← Script.read path).toOption

/-- The text of a file, without a byte order mark. -/
def fileText (bytes : ByteArray) : String :=
  if bytes.data.toList.take 3 = [0xEF, 0xBB, 0xBF] then
    Text.decodeLossy (bytes.extract 3 bytes.size)
  else Text.decodeLossy bytes

/-- Load the preferences. A file that was asked for must be there. -/
def load (env : Environment) (asked : Option String) : Job String Preferences := do
  let path := asked.getD (defaultFile env)
  let entries ←
    match ← readFile path with
    | none => if asked.isSome then throw s!"{path} was not found" else pure []
    | some bytes =>
      match fileEntries? (fileText bytes) with
      | some entries => pure entries
      | none => throw s!"{path} is not a TOML document"
  .ofExcept (ofEntries (entries ++ variableEntries env))

end Preferences

end Blueprint
