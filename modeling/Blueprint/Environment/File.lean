import Blueprint.Environment.Assignment
import Blueprint.Machine.Script

/-!
Environment files: a file `.env` in the working directory, or in the nearest directory above it that
has one, provides values for variables that have none. A record of the file is a line, or several of
them if a quotation stays open at the end of the first. The first record that cannot be read ends
the file; those before it count.
-/

namespace Blueprint.EnvironmentFile

/-- Where the reading of a record is. -/
inductive State where
  | open
  /-- After a blank, where a comment may begin. -/
  | blank
  | escaped
  | single
  | singleEscaped
  | double
  | doubleEscaped
  deriving DecidableEq

/-- The state after a character. -/
def State.next (state : State) (c : Char) : State :=
  let outside : State :=
    if c = '\\' then .escaped else if c = '"' then .double else if c = '\'' then .single
    else .open
  match state with
  | .blank => outside
  | .open => if Text.isBlank c && c ≠ '\n' && c ≠ '\r' then .blank else outside
  | .escaped => .open
  | .single => if c = '\\' then .singleEscaped else if c = '\'' then .open else .single
  | .singleEscaped => .single
  | .double => if c = '\\' then .doubleEscaped else if c = '"' then .open else .double
  | .doubleEscaped => .double

/-- The part of a line before a comment, and the state at its end; no state if there is one. -/
def scanLine (state : State) (seen : List Char) : List Char → List Char × Option State
  | [] => (seen.reverse, some state)
  | c :: rest =>
    if state = .blank && c = '#' then (seen.reverse, none)
    else scanLine (state.next c) (c :: seen) rest

/-- The lines of a text, each with its end. -/
def lines (current : List Char) : List Char → List (List Char)
  | [] => if current = [] then [] else [current.reverse]
  | '\n' :: rest => ('\n' :: current).reverse :: lines [] rest
  | c :: rest => lines (c :: current) rest

def records (text : List Char) (state : State) : List (List Char) → List (List Char)
  | [] => []
  | line :: rest =>
    if ((text ++ line).dropWhile Text.isBlank).head? = some '#' then
      [] :: records [] .open rest
    else
      match scanLine state [] line with
      | (part, none) => (text ++ part) :: records [] .open rest
      | (part, some .open) => (text ++ part) :: records [] .open rest
      | (part, some state) => records (text ++ part) state rest

/-- A record without the blanks at its ends. -/
def trimmed (record : List Char) : List Char := Text.trimChars record

/-- The environment with the assignments of some records, up to the first that cannot be read. -/
def provide (env : Environment) (known : List (String × String)) :
    List (List Char) → Environment
  | [] => env
  | record :: rest =>
    match trimmed record with
    | [] | '#' :: _ => provide env known rest
    | cs =>
      let valueOf (name : String) : String :=
        ((env.get? name) <|> (known.lookup name)).getD ""
      match Assignment.ofChars? valueOf cs with
      | none => env
      | some ⟨name, value⟩ => provide (env.provide name value) ((name, value) :: known) rest

/-- The lines of a file as bytes, each with its end. The bytes of a line that has begun come first,
the latest of them in front. -/
def byteLines (current : List UInt8) : List UInt8 → List (List UInt8)
  | [] => [current.reverse]
  | b :: rest =>
    if b = 10 then (b :: current).reverse :: byteLines [] rest else byteLines (b :: current) rest

/-- The text of a file up to the first line that is not text, without a byte order mark. -/
def text (bytes : ByteArray) : List Char :=
  let decoded := (byteLines [] bytes.data.toList).map fun line => String.fromUTF8? ⟨line.toArray⟩
  let valid := (decoded.takeWhile Option.isSome).filterMap id
  match valid.flatMap String.toList with
  | '\uFEFF' :: rest => rest
  | cs => cs

def provideFile (env : Environment) (bytes : ByteArray) : Environment :=
  provide env [] (records [] .open (lines [] (text bytes)))

/-- The paths at which the file may be, the nearest first. -/
def candidates : List String :=
  (List.range 64).map fun depth => String.join (List.replicate depth "../") ++ ".env"

/-- The contents of the first file that is there. -/
def find : List String → Script (Option ByteArray)
  | [] => return none
  | path :: rest => do
    match ← Script.read path with
    | .ok bytes => return some bytes
    | .error _ => find rest

/-- The environment with what the nearest file provides. -/
def load (env : Environment) : Script Environment := do
  match ← find candidates with
  | some bytes => return provideFile env bytes
  | none => return env

end Blueprint.EnvironmentFile
