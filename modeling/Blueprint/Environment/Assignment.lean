import Blueprint.Environment
import Blueprint.Text.Ascii
import Blueprint.Text.Blank

/-!
Assignments of variables, as they stand in an environment file. An assignment is a name, an equals
sign and a value, perhaps with the word `export` before it. In a value, single quotation marks keep
all characters as they stand; outside of them a backslash takes the next character for itself, and a
dollar sign puts in the value of another variable, which may be named between braces. A comment
follows a blank.
-/

namespace Blueprint

/-- A variable that is given a value. -/
structure Assignment where
  name : String
  value : String
  deriving DecidableEq

namespace Assignment

/-- How a name after a dollar sign is being read. -/
inductive Naming where
  | plain
  | braced
  deriving DecidableEq

/-- What a value is being read within. -/
inductive Quotation where
  | none
  | single
  | double
  deriving DecidableEq

/-- A value that is being read, its characters in reverse. -/
structure Partial where
  text : List Char := []
  quotation : Quotation := .none
  /-- Whether a backslash came last. -/
  escaped : Bool := false
  /-- Whether a blank has ended the value. -/
  ended : Bool := false
  naming : Option Naming := none
  /-- The characters of a name so far, in reverse. -/
  name : List Char := []

/-- The value with a character added. -/
def Partial.add (p : Partial) (c : Char) : Partial := { p with text := c :: p.text }

/-- The value with that of the named variable put in. -/
def Partial.putIn (p : Partial) (valueOf : String → String) : Partial :=
  { p with
    text := (valueOf (String.ofList p.name.reverse)).toList.reverse ++ p.text
    name := []
    naming := none }

/-- The character that a backslash and a letter stand for. -/
def escape? (c : Char) : Option Char :=
  if c ∈ ['\\', '\'', '"', '$', ' '] then some c else if c = 'n' then some '\n' else none

/-- Whether a character may stand in a name after a dollar sign. Letters of other scripts may. -/
def isNameChar (c : Char) : Bool := Text.isAlnum c || 0x80 ≤ c.toNat

/-- Read one character of a name. Any other character ends a name without braces. -/
def Partial.stepName (p : Partial) (valueOf : String → String) (naming : Naming) (c : Char) :
    Partial :=
  if isNameChar c then { p with name := c :: p.name }
  else
    match naming with
    | .plain =>
      if c = '\x7b' && p.name = [] then { p with naming := some .braced }
      else if c = '$' then { p.putIn valueOf with naming := some .plain }
      else (p.putIn valueOf).add c
    | .braced => if c = '\x7d' then p.putIn valueOf else { p with name := c :: p.name }

/-- Read one character that is neither part of a name nor kept as it stands. -/
def Partial.stepOpen (p : Partial) (c : Char) : Partial :=
  if c = '$' then { p with naming := some .plain }
  else if c = '\\' then { p with escaped := true }
  else
    match p.quotation with
    | .double => if c = '"' then { p with quotation := .none } else p.add c
    | _ =>
      if c = '\'' then { p with quotation := .single }
      else if c = '"' then { p with quotation := .double }
      else if c = ' ' || c = '\t' then { p with ended := true }
      else p.add c

def readValue? (valueOf : String → String) (p : Partial) : List Char → Option Partial
  | [] => some p
  | c :: rest =>
    if p.ended then
      if c = ' ' || c = '\t' then readValue? valueOf p rest
      else if c = '#' then some p
      else none
    else if p.escaped then
      (escape? c).bind fun c => readValue? valueOf { p.add c with escaped := false } rest
    else if p.quotation = .single then
      readValue? valueOf (if c = '\'' then { p with quotation := .none } else p.add c) rest
    else
      match p.naming with
      | some naming => readValue? valueOf (p.stepName valueOf naming c) rest
      | none => readValue? valueOf (p.stepOpen c) rest

/-- The value that some characters write, none if a quotation or a pair of braces stays open. -/
def value? (valueOf : String → String) (cs : List Char) : Option String := do
  let p ← readValue? valueOf {} cs
  if p.naming = some .braced || p.quotation ≠ .none then none
  else return String.ofList (p.putIn valueOf).text.reverse

/-- A name at the beginning of some characters, and what follows it and the blanks after it. -/
def name? (cs : List Char) : Option (String × List Char) :=
  if (cs.head?.map fun c => Text.isLetter c || c = '_').getD false then
    let name := cs.takeWhile fun c => Text.isAlnum c || c = '_' || c = '.'
    some (String.ofList name, (cs.drop name.length).dropWhile Text.isBlank)
  else none

def ofRest? (valueOf : String → String) (name : String) (cs : List Char) : Option Assignment :=
  match cs with
  | '=' :: rest =>
    match rest.dropWhile Text.isBlank with
    | [] | '#' :: _ => some ⟨name, ""⟩
    | value => (value? valueOf value).map fun value => ⟨name, value⟩
  | _ => none

/-- The assignment of a record that is neither blank nor a comment. -/
def ofChars? (valueOf : String → String) (cs : List Char) : Option Assignment := do
  let (name, rest) ← name? cs
  if name = "export" && rest.head? ≠ some '=' then
    let (name, rest) ← name? rest
    ofRest? valueOf name rest
  else ofRest? valueOf name rest

end Assignment

end Blueprint
