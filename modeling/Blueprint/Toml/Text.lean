import Blueprint.Text.Ascii

/-!
Strings of a TOML document: between double quotation marks with escapes, or between single ones as
they stand; three marks in a row make a string that may run over several lines. A line break is a
line feed, with or without a carriage return before it.
-/

namespace Blueprint.Toml

open Text

/-- Whether a character may not stand in a document, apart from the tabulator and line breaks. -/
def isControl (c : Char) : Bool := (c.toNat < 32 && c ≠ '\t') || c.toNat = 127

/-- A character of a given number of hexadecimal digits. -/
def codePoint? (digits : List Char) : Option Char :=
  let n := digitsValue 16 digits
  if digits.all isHex ∧ (n < 0xD800 ∨ (0xDFFF < n ∧ n < 0x110000)) then some (Char.ofNat n)
  else none

/-- The character named by a backslash and a letter. -/
def shortEscape? : Char → Option Char
  | 'b' => some '\x08'
  | 't' => some '\t'
  | 'n' => some '\n'
  | 'f' => some '\x0c'
  | 'r' => some '\r'
  | 'e' => some '\x1b'
  | '"' => some '"'
  | '\\' => some '\\'
  | _ => none

/-- The character named after a backslash, and what follows. -/
def escape? : List Char → Option (Char × List Char)
  | [] => none
  | letter :: rest =>
    let digits := if letter = 'x' then 2 else if letter = 'u' then 4
      else if letter = 'U' then 8 else 0
    if digits = 0 then (shortEscape? letter).map fun c => (c, rest)
    else if rest.length < digits then none
    else (codePoint? (rest.take digits)).map fun c => (c, rest.drop digits)

/-- The rest of a basic string of one line. -/
def basic? (fuel : Nat) (text : List Char) (cs : List Char) : Option (String × List Char) :=
  match fuel, cs with
  | 0, _ | _, [] => none
  | _ + 1, '"' :: rest => some (String.ofList text.reverse, rest)
  | fuel + 1, '\\' :: rest =>
    match escape? rest with
    | some (c, rest) => basic? fuel (c :: text) rest
    | none => none
  | fuel + 1, c :: rest => if isControl c then none else basic? fuel (c :: text) rest

/-- The rest of a literal string of one line. -/
def literal? (text : List Char) : List Char → Option (String × List Char)
  | [] => none
  | '\'' :: rest => some (String.ofList text.reverse, rest)
  | c :: rest => if isControl c then none else literal? (c :: text) rest

/-- What follows a line break, when the characters start with one. -/
def lineBreak? : List Char → Option (List Char)
  | '\n' :: rest => some rest
  | '\r' :: '\n' :: rest => some rest
  | _ => none

/-- What follows a backslash at the end of a line: the text after all blanks and line breaks. None
when something else stands between the backslash and the end of its line. -/
def continuation? (cs : List Char) : Option (List Char) :=
  match lineBreak? (cs.dropWhile fun c => c = ' ' || c = '\t') with
  | some rest => some (rest.dropWhile fun c => c = ' ' || c = '\t' || c = '\n' || c = '\r')
  | none => none

/-- The closing marks of a string over several lines: the marks that still belong to the text, at
most two of them, and what follows. -/
def closing? (mark : Char) (cs : List Char) : Option (List Char × List Char) :=
  let marks := cs.takeWhile (· = mark)
  if marks.length < 3 then none
  else
    let extra := min (marks.length - 3) 2
    some (List.replicate extra mark, cs.drop (3 + extra))

/-- The rest of a basic string over several lines. -/
def longBasic? (fuel : Nat) (text : List Char) (cs : List Char) : Option (String × List Char) :=
  match fuel, cs with
  | 0, _ | _, [] => none
  | fuel + 1, '"' :: rest =>
    match closing? '"' ('"' :: rest) with
    | some (extra, rest) => some (String.ofList (text.reverse ++ extra), rest)
    | none => longBasic? fuel ('"' :: text) rest
  | fuel + 1, '\\' :: rest =>
    match continuation? rest with
    | some rest => longBasic? fuel text rest
    | none =>
      match escape? rest with
      | some (c, rest) => longBasic? fuel (c :: text) rest
      | none => none
  | fuel + 1, '\r' :: '\n' :: rest => longBasic? fuel ('\n' :: '\r' :: text) rest
  | fuel + 1, c :: rest =>
    if isControl c && c ≠ '\n' then none else longBasic? fuel (c :: text) rest

/-- The rest of a literal string over several lines. -/
def longLiteral? (fuel : Nat) (text : List Char) (cs : List Char) :
    Option (String × List Char) :=
  match fuel, cs with
  | 0, _ | _, [] => none
  | fuel + 1, '\'' :: rest =>
    match closing? '\'' ('\'' :: rest) with
    | some (extra, rest) => some (String.ofList (text.reverse ++ extra), rest)
    | none => longLiteral? fuel ('\'' :: text) rest
  | fuel + 1, '\r' :: '\n' :: rest => longLiteral? fuel ('\n' :: '\r' :: text) rest
  | fuel + 1, c :: rest =>
    if isControl c && c ≠ '\n' then none else longLiteral? fuel (c :: text) rest

/-- The text without a line break at its very beginning. -/
def dropLineBreak (cs : List Char) : List Char := (lineBreak? cs).getD cs

/-- A string of one line, as it may also name a key. -/
def shortText? : List Char → Option (String × List Char)
  | '"' :: rest => basic? (rest.length + 1) [] rest
  | '\'' :: rest => literal? [] rest
  | _ => none

/-- A string of any kind. -/
def text? : List Char → Option (String × List Char)
  | '"' :: '"' :: '"' :: rest => longBasic? (rest.length + 1) [] (dropLineBreak rest)
  | '\'' :: '\'' :: '\'' :: rest => longLiteral? (rest.length + 1) [] (dropLineBreak rest)
  | cs => shortText? cs

end Blueprint.Toml
