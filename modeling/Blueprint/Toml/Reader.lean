import Blueprint.Toml.Scalar
import Blueprint.Toml.Table
import Blueprint.Toml.Text

/-!
Reading a TOML document into a JSON value. Every line gives a key its value or opens a table; a
document with a line that does neither has no value at all.
-/

namespace Blueprint.Toml

open Text

/-- The characters after spaces and tabulators. -/
def skipSpaces (cs : List Char) : List Char := cs.dropWhile fun c => c = ' ' || c = '\t'

/-- The characters after a comment, if there is one. None when the comment is malformed. -/
def skipComment? : List Char → Option (List Char)
  | '#' :: rest =>
    let comment := rest.takeWhile fun c => c ≠ '\n' && c ≠ '\r'
    if comment.any isControl then none else some (rest.drop comment.length)
  | cs => some cs

/-- What follows the end of a line: blanks, perhaps a comment, then a line break or the end. -/
def lineEnd? (cs : List Char) : Option (List Char) :=
  match skipComment? (skipSpaces cs) with
  | some [] => some []
  | some rest => lineBreak? rest
  | none => none

/-- The characters after blanks, comments and line breaks. -/
def skipLines? (fuel : Nat) (cs : List Char) : Option (List Char) :=
  match fuel with
  | 0 => none
  | fuel + 1 =>
    match skipComment? (skipSpaces cs) with
    | none => none
    | some rest =>
      match lineBreak? rest with
      | some rest => skipLines? fuel rest
      | none => some rest

/-- Whether a character may stand in a key without quotation marks. -/
def isKeyChar (c : Char) : Bool := isAlnum c || c = '_' || c = '-'

def keyPart? (cs : List Char) : Option (String × List Char) :=
  match shortText? cs with
  | some part => some part
  | none =>
    let part := cs.takeWhile isKeyChar
    if part = [] then none else some (String.ofList part, cs.drop part.length)

/-- A key with its parts, and what follows it and the blanks after it. -/
def key? (fuel : Nat) (cs : List Char) : Option (List String × List Char) :=
  match fuel with
  | 0 => none
  | fuel + 1 =>
    match keyPart? (skipSpaces cs) with
    | none => none
    | some (part, rest) =>
      match skipSpaces rest with
      | '.' :: rest => (key? fuel rest).map fun (parts, rest) => (part :: parts, rest)
      | rest => some ([part], rest)

mutual

/-- A value and what follows it. -/
def value? (fuel : Nat) (cs : List Char) : Option (Json × List Char) :=
  match fuel with
  | 0 => none
  | fuel + 1 =>
    match cs with
    | '[' :: rest => (items? fuel rest).map fun (items, rest) => (.arr items, rest)
    | '\x7b' :: rest =>
      (members? fuel [] rest).map fun (entries, rest) => (.obj (entriesToJson entries), rest)
    | '"' :: _ | '\'' :: _ => (text? cs).map fun (s, rest) => (.str s, rest)
    | _ =>
      let (letters, rest) := word cs
      (word? letters).map fun json => (json, rest)

/-- The items of an array up to its closing bracket. A comma may follow the last one. -/
def items? (fuel : Nat) (cs : List Char) : Option (List Json × List Char) :=
  match fuel with
  | 0 => none
  | fuel + 1 =>
    match skipLines? (cs.length + 1) cs with
    | none => none
    | some (']' :: rest) => some ([], rest)
    | some rest =>
      match value? fuel rest with
      | none => none
      | some (item, rest) =>
        match skipLines? (rest.length + 1) rest with
        | some (',' :: rest) => (items? fuel rest).map fun (more, rest) => (item :: more, rest)
        | some (']' :: rest) => some ([item], rest)
        | _ => none

/-- The entries of a table in braces up to its closing brace. A comma may follow the last one. -/
def members? (fuel : Nat) (entries : Entries) (cs : List Char) : Option (Entries × List Char) :=
  match fuel with
  | 0 => none
  | fuel + 1 =>
    match skipLines? (cs.length + 1) cs with
    | none => none
    | some ('\x7d' :: rest) => some (entries, rest)
    | some rest =>
      match key? (rest.length + 1) rest with
      | some (path, '=' :: rest) =>
        match value? fuel (skipSpaces rest) with
        | none => none
        | some (json, rest) =>
          match put json path entries with
          | none => none
          | some entries =>
            match skipLines? (rest.length + 1) rest with
            | some (',' :: rest) => members? fuel entries rest
            | some ('\x7d' :: rest) => some (entries, rest)
            | _ => none
      | _ => none

end

/-- The path of a header up to its closing bracket. -/
def header? (cs : List Char) : Option (List String × List Char) :=
  match key? (cs.length + 1) cs with
  | some (path, ']' :: rest) => some (path, rest)
  | _ => none

/-- What has been read of a document. -/
structure Reading where
  entries : Entries
  /-- The keys that lead to the table whose header was read last. -/
  path : List String

/-- Open the table at a path. -/
def Reading.enter (reading : Reading) (openLast : String → Entries → Option Entries)
    (path : List String) : Option Reading :=
  match path.getLast? with
  | none => none
  | some last =>
    (within (openLast last) path.dropLast reading.entries).map fun entries => ⟨entries, path⟩

/-- Read one line that is not blank. -/
def line? (reading : Reading) (cs : List Char) : Option (Reading × List Char) :=
  match cs with
  | '[' :: '[' :: rest =>
    match header? rest with
    | some (path, ']' :: rest) => (reading.enter openTables path).map fun r => (r, rest)
    | _ => none
  | '[' :: rest =>
    match header? rest with
    | some (path, rest) => (reading.enter openTable path).map fun r => (r, rest)
    | none => none
  | _ =>
    match key? (cs.length + 1) cs with
    | some (path, '=' :: rest) =>
      match value? (2 * rest.length + 2) (skipSpaces rest) with
      | some (json, rest) =>
        (within (put json path) reading.path reading.entries).map fun entries =>
          ({ reading with entries }, rest)
      | none => none
    | _ => none

/-- Read the lines of a document. -/
def lines? (fuel : Nat) (reading : Reading) (cs : List Char) : Option Reading :=
  match fuel with
  | 0 => none
  | fuel + 1 =>
    match skipLines? (cs.length + 1) cs with
    | none => none
    | some [] => some reading
    | some rest =>
      match line? reading rest with
      | none => none
      | some (reading, rest) => (lineEnd? rest).bind (lines? fuel reading)

/-- The JSON value that a document denotes. A byte order mark at the beginning is passed over. -/
def parse? (s : String) : Option Json :=
  let cs := match s.toList with
    | '\uFEFF' :: rest => rest
    | cs => cs
  (lines? (cs.length + 1) ⟨[], []⟩ cs).map fun reading => .obj (entriesToJson reading.entries)

end Blueprint.Toml
