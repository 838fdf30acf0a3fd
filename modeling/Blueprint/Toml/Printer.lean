import Blueprint.Json
import Blueprint.Text.Ascii
import Blueprint.Text.Split

/-!
Writing a TOML document: one line for each key, in the order of the keys. A string is put between
double quotation marks if nothing in it would need an escape there. Otherwise the first form that
can hold it as it stands is taken: between single marks, or over several lines between three double
or three single ones. Only a string that has no such form is written with escapes.
-/

namespace Blueprint.Toml

open Text

/-- The greatest number of equal characters in a row. -/
def longestRun (mark : Char) (cs : List Char) : Nat :=
  (cs.foldl (fun (longest, present) c =>
    let present := if c = mark then present + 1 else 0
    (max longest present, present)) ((0, 0) : Nat × Nat)).1

/-- Whether a character has no written form but an escape. -/
def needsCode (c : Char) : Bool :=
  (c.toNat < 32 && c ≠ '\t' && c ≠ '\n') || c.toNat = 127

/-- The forms of a string. -/
inductive StringForm where
  | basic
  | literal
  | longBasic
  | longLiteral
  deriving DecidableEq

namespace StringForm

/-- Whether a form runs over several lines. -/
def isLong : StringForm → Bool
  | longBasic | longLiteral => true
  | _ => false

/-- What stands before and after a string. -/
def delimiter : StringForm → List Char
  | basic => ['"']
  | literal => ['\'']
  | longBasic => ['"', '"', '"']
  | longLiteral => ['\'', '\'', '\'']

/-- Whether a form can hold a string as it stands. -/
def holds (form : StringForm) (cs : List Char) : Bool :=
  !cs.any needsCode && (form.isLong || !cs.contains '\n') &&
    match form with
    | basic => !cs.contains '\\' && longestRun '"' cs = 0
    | literal => longestRun '\'' cs = 0
    | longBasic => !cs.contains '\\' && longestRun '"' cs ≤ 2
    | longLiteral => longestRun '\'' cs ≤ 2

def forText (cs : List Char) : StringForm :=
  (([basic, literal, longBasic, longLiteral].find? fun form => form.holds cs)).getD
    (if cs.contains '\n' then longBasic else basic)

end StringForm

/-- A capital hexadecimal digit for a number below sixteen. -/
def capitalHex (n : Nat) : Char := (hexDigit n).toUpper

/-- The written form of a character between double marks. -/
def escaped (long : Bool) (c : Char) : List Char :=
  if c = '\\' then ['\\', '\\']
  else if c = '\t' then ['\\', 't']
  else if c = '\r' then ['\\', 'r']
  else if c.toNat = 8 then ['\\', 'b']
  else if c.toNat = 12 then ['\\', 'f']
  else if c = '\n' then (if long then ['\n'] else ['\\', 'n'])
  else if c.toNat < 32 || c.toNat = 127 then
    ['\\', 'u', '0', '0', capitalHex (c.toNat / 16), capitalHex (c.toNat % 16)]
  else [c]

/-- The characters of a string between double marks. A mark is escaped if it would be one too many
in a row. -/
def escapedChars (long : Bool) (marks : Nat) : List Char → List Char
  | [] => []
  | '"' :: rest =>
    if (if long then 2 else 0) ≤ marks then '\\' :: '"' :: escapedChars long 0 rest
    else '"' :: escapedChars long (marks + 1) rest
  | c :: rest => escaped long c ++ escapedChars long 0 rest

/-- A string with its marks. -/
def textChars (cs : List Char) : List Char :=
  let form := StringForm.forText cs
  let body := match form with
    | .basic | .longBasic => escapedChars form.isLong 0 cs
    | .literal | .longLiteral => cs
  form.delimiter ++ (if form.isLong then ['\n'] else []) ++ body ++ form.delimiter

/-- Whether a key needs no quotation marks. -/
def isPlainKey (key : String) : Bool :=
  key ≠ "" && key.toList.all fun c => isAlnum c || c = '_' || c = '-'

def keyText (key : String) : String :=
  if isPlainKey key then key else String.ofList (textChars key.toList)

mutual

/-- The text of a value. An array of several items takes a line for each of them. -/
def valueText : Json → String
  | .null => "\"\""
  | .bool b => if b then "true" else "false"
  | .int n => toString n
  | .real word => word
  | .str s => String.ofList (textChars s.toList)
  | .unpaired => "\"\""
  | .arr [] => "[]"
  | .arr items => "[\n" ++ itemLines items ++ "]"
  | .obj members => "\x7b " ++ String.intercalate ", " (memberTexts members) ++ " \x7d"

/-- The lines of the items of an array. -/
def itemLines : List Json → String
  | [] => ""
  | item :: rest => "    " ++ valueText item ++ ",\n" ++ itemLines rest

/-- The members of a table in one line. -/
def memberTexts : List (String × Json) → List String
  | [] => []
  | (key, value) :: rest => (keyText key ++ " = " ++ valueText value) :: memberTexts rest

end

/-- The document with the given members. Members without a value are left out. -/
def document (members : List (String × Json)) : String :=
  let present := members.filter fun member => match member.2 with
    | .null => false
    | _ => true
  Text.ofLines (memberTexts present)

end Blueprint.Toml
