import Blueprint.Bounds
import Blueprint.Json
import Blueprint.Text.Ascii

/-!
Reading a JSON text. A text is read whole: after the value only blanks may follow. The reader keeps
what a later decision may depend on: members that stand twice, whether a number is an integer, and
string literals that name half of a surrogate pair. A member of the outermost object must have a
key that denotes a text; deeper keys are data that nothing looks at.
-/

namespace Blueprint.Json

open Text

/-- The text after the blanks at its beginning. -/
def skipBlanks (cs : List Char) : List Char :=
  cs.dropWhile fun c => c = ' ' || c = '\n' || c = '\t' || c = '\r'

/-- The number written by four hexadecimal digits. -/
def hexUnit (a b c d : Char) : Option Nat :=
  if [a, b, c, d].all isHex then some (digitsValue 16 [a, b, c, d]) else none

/-- The character named by a backslash and one letter. -/
def shortEscape : Char → Option Char
  | '"' => some '"'
  | '\\' => some '\\'
  | '/' => some '/'
  | 'b' => some '\x08'
  | 'f' => some '\x0c'
  | 'n' => some '\n'
  | 'r' => some '\r'
  | 't' => some '\t'
  | _ => none

/-- Whether a UTF-16 unit is the first half of a surrogate pair. -/
def isHighHalf (unit : Nat) : Bool := 0xD800 ≤ unit && unit ≤ 0xDBFF

/-- Whether a UTF-16 unit is the second half of a surrogate pair. -/
def isLowHalf (unit : Nat) : Bool := 0xDC00 ≤ unit && unit ≤ 0xDFFF

/-- The character named by a surrogate pair. -/
def pairedChar (high low : Nat) : Char :=
  Char.ofNat (0x10000 + (high - 0xD800) * 0x400 + (low - 0xDC00))

/-- A piece of a string literal: a character, or half of a surrogate pair given by its number. -/
inductive Piece where
  | char (c : Char)
  | half (unit : Nat)

/-- The piece named by a UTF-16 unit. -/
def Piece.ofUnit (unit : Nat) : Piece :=
  if isHighHalf unit || isLowHalf unit then .half unit else .char (Char.ofNat unit)

/-- The pieces of a string literal in reverse order, and what follows its closing quotation mark. -/
def pieces (read : List Piece) : List Char → Option (List Piece × List Char)
  | [] => none
  | '"' :: rest => some (read, rest)
  | '\\' :: 'u' :: a :: b :: c :: d :: rest =>
    match hexUnit a b c d with
    | none => none
    | some unit => pieces (.ofUnit unit :: read) rest
  | '\\' :: letter :: rest =>
    match shortEscape letter with
    | none => none
    | some c => pieces (.char c :: read) rest
  | c :: rest => if c.toNat < 32 then none else pieces (.char c :: read) rest

/-- The characters that pieces in reverse order denote, in their right order, and whether every half
of a surrogate pair stands beside its partner. -/
def joinPieces (text : List Char) (paired : Bool) : List Piece → List Char × Bool
  | [] => (text, paired)
  | .char c :: rest => joinPieces (c :: text) paired rest
  | .half low :: .half high :: rest =>
    if isLowHalf low && isHighHalf high then joinPieces (pairedChar high low :: text) paired rest
    else joinPieces text false (.half high :: rest)
  | .half _ :: rest => joinPieces text false rest

/-- The contents of a string literal: the text, whether every surrogate half has its partner, and
what follows the closing quotation mark. -/
def stringBody (cs : List Char) : Option (String × Bool × List Char) :=
  (pieces [] cs).map fun (read, rest) =>
    let (text, paired) := joinPieces [] true read
    (String.ofList text, paired, rest)

def digitRun (cs : List Char) : Option (List Char × List Char) :=
  match cs.takeWhile isDigit with
  | [] => none
  | digits => some (digits, cs.dropWhile isDigit)

/-- The fraction of a number, empty when there is none. -/
def fraction : List Char → Option (List Char × List Char)
  | '.' :: rest => (digitRun rest).map fun (digits, rest) => ('.' :: digits, rest)
  | cs => some ([], cs)

/-- The sign of an exponent, empty when there is none. -/
def exponentSign : List Char → List Char × List Char
  | '+' :: rest => (['+'], rest)
  | '-' :: rest => (['-'], rest)
  | cs => ([], cs)

/-- The exponent of a number, empty when there is none. -/
def exponent : List Char → Option (List Char × List Char)
  | mark :: rest =>
    if mark = 'e' || mark = 'E' then
      let (sign, rest) := exponentSign rest
      (digitRun rest).map fun (digits, rest) => (mark :: sign ++ digits, rest)
    else some ([], mark :: rest)
  | [] => some ([], [])

/-- The value of an integer literal. A minus sign before zero does not make an integer, nor do
digits beyond sixty-four bits. -/
def integer (negative : Bool) (digits : List Char) : Json :=
  let n := digitsValue 10 digits
  if negative then
    if 0 < n ∧ Bounds.leastInt64 ≤ -(n : Int) then .int (-(n : Int))
    else .real (String.ofList ('-' :: digits))
  else if n ≤ Bounds.nat64 then .int n
  else .real (String.ofList digits)

/-- A number without its sign. -/
def unsignedNumber (negative : Bool) (cs : List Char) : Option (Json × List Char) :=
  match digitRun cs with
  | none => none
  | some (digits, rest) =>
    if digits.head? = some '0' ∧ 1 < digits.length then none
    else
      match fraction rest with
      | none => none
      | some (places, rest) =>
        match exponent rest with
        | none => none
        | some (power, rest) =>
          if places = [] ∧ power = [] then some (integer negative digits, rest)
          else
            let sign := if negative then ['-'] else []
            some (.real (String.ofList (sign ++ digits ++ places ++ power)), rest)

def number : List Char → Option (Json × List Char)
  | '-' :: rest => unsignedNumber true rest
  | cs => unsignedNumber false cs

/-- A value that is neither an array nor an object. -/
def scalar : List Char → Option (Json × List Char)
  | '"' :: rest =>
    (stringBody rest).map fun (s, paired, rest) =>
      (if paired then .str s else .unpaired, rest)
  | 'n' :: 'u' :: 'l' :: 'l' :: rest => some (.null, rest)
  | 't' :: 'r' :: 'u' :: 'e' :: rest => some (.bool true, rest)
  | 'f' :: 'a' :: 'l' :: 's' :: 'e' :: rest => some (.bool false, rest)
  | cs => number cs

mutual

/-- A value and the text after it. The outermost value is marked as such. -/
def value (fuel : Nat) (outermost : Bool) (cs : List Char) : Option (Json × List Char) :=
  match fuel with
  | 0 => none
  | fuel + 1 =>
    match skipBlanks cs with
    | '[' :: rest =>
      match skipBlanks rest with
      | ']' :: rest => some (.arr [], rest)
      | rest => (items fuel rest).map fun (items, rest) => (.arr items, rest)
    | '\x7b' :: rest =>
      match skipBlanks rest with
      | '\x7d' :: rest => some (.obj [], rest)
      | rest => (members fuel outermost rest).map fun (members, rest) => (.obj members, rest)
    | cs => scalar cs

/-- The items of an array that has some, and the text after its closing bracket. -/
def items (fuel : Nat) (cs : List Char) : Option (List Json × List Char) :=
  match fuel with
  | 0 => none
  | fuel + 1 =>
    match value fuel false cs with
    | none => none
    | some (item, rest) =>
      match skipBlanks rest with
      | ',' :: rest => (items fuel rest).map fun (more, rest) => (item :: more, rest)
      | ']' :: rest => some ([item], rest)
      | _ => none

/-- The members of an object that has some, and the text after its closing brace. -/
def members (fuel : Nat) (outermost : Bool) (cs : List Char) :
    Option (List (String × Json) × List Char) :=
  match fuel with
  | 0 => none
  | fuel + 1 =>
    match skipBlanks cs with
    | '"' :: rest =>
      match stringBody rest with
      | none => none
      | some (key, paired, rest) =>
        if outermost && !paired then none
        else
          match skipBlanks rest with
          | ':' :: rest =>
            match value fuel false rest with
            | none => none
            | some (json, rest) =>
              match skipBlanks rest with
              | ',' :: rest =>
                (members fuel outermost rest).map fun (more, rest) => ((key, json) :: more, rest)
              | '\x7d' :: rest => some ([(key, json)], rest)
              | _ => none
          | _ => none
    | _ => none

end

/-- The value that a list of characters denotes. -/
def ofChars? (cs : List Char) : Option Json :=
  match value (2 * cs.length + 2) true cs with
  | some (json, rest) => if skipBlanks rest = [] then some json else none
  | none => none

/-- The value that a text denotes; none when the text is not JSON. -/
def parse? (s : String) : Option Json := ofChars? s.toList

end Blueprint.Json
