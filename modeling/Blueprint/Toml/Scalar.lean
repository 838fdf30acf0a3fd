import Blueprint.Bounds
import Blueprint.Json
import Blueprint.Text.Ascii
import Blueprint.Text.Real
import Blueprint.Text.Split

/-!
Numbers, truth values and dates of a TOML document. Each is one word. Integers of sixty-four bits
become integers; other numbers, dates and times become numbers without a value, since no setting is
one.
-/

namespace Blueprint.Toml

open Text

/-- Whether a character may stand in a word. -/
def isWordChar (c : Char) : Bool :=
  isAlnum c || c = '_' || c = '-' || c = '+' || c = '.' || c = ':'

/-- The digits of a number without the underscores, each of which must stand between two digits. -/
def digits? (isDigit : Char → Bool) (cs : List Char) : Option (List Char) :=
  if (splitChars '_' cs).all fun part => part ≠ [] && part.all isDigit then
    some (cs.filter (· ≠ '_'))
  else none

/-- The digits of a decimal number, which do not start with a needless zero. -/
def decimal? (cs : List Char) : Option (List Char) :=
  match digits? isDigit cs with
  | some digits => if digits.head? = some '0' ∧ 1 < digits.length then none else some digits
  | none => none

/-- The sign of a number and the rest of it. -/
def sign : List Char → Bool × List Char
  | '+' :: rest => (false, rest)
  | '-' :: rest => (true, rest)
  | cs => (false, cs)

/-- An integer. Up to a hundred and twenty-eight bits it is a number, beyond it is an error. -/
def integer? (negative : Bool) (n : Nat) (word : List Char) : Option Json :=
  let value : Int := if negative then -(n : Int) else n
  if Bounds.leastInt64 ≤ value ∧ value ≤ Bounds.greatestInt64 then some (.int value)
  else if Bounds.leastInt128 ≤ value ∧ value ≤ Bounds.nat128 then some (.real (String.ofList word))
  else none

/-- An integer in a base other than ten, written after a zero and the letter of the base. -/
def based? (word : List Char) : Option Json :=
  match word with
  | '0' :: 'x' :: rest =>
    (digits? isHex rest).bind fun ds => integer? false (digitsValue 16 ds) word
  | '0' :: 'o' :: rest =>
    (digits? (fun c => '0' ≤ c && c ≤ '7') rest).bind fun ds =>
      integer? false (digitsValue 8 ds) word
  | '0' :: 'b' :: rest =>
    (digits? (fun c => c = '0' || c = '1') rest).bind fun ds =>
      integer? false (digitsValue 2 ds) word
  | _ => none

/-- An integer in base ten. -/
def plainInteger? (word : List Char) : Option Json :=
  let (negative, rest) := sign word
  (decimal? rest).bind fun ds => integer? negative (digitsValue 10 ds) word

def isExponent (cs : List Char) : Bool := (digits? isDigit (sign cs).2).isSome

/-- Whether some characters are a number with a fraction or an exponent, without its sign. -/
def isFraction (cs : List Char) : Bool :=
  let mantissa := cs.takeWhile fun c => c ≠ 'e' && c ≠ 'E'
  let power := cs.drop mantissa.length
  let powerFits := match power with
    | [] => true
    | _ :: power => isExponent power
  match cutChars '.' mantissa with
  | some (whole, places) =>
    (decimal? whole).isSome && (digits? isDigit places).isSome && powerFits
  | none => (decimal? mantissa).isSome && power ≠ [] && powerFits

/-- Whether a number is too large for double precision. -/
def isTooLarge (cs : List Char) : Bool :=
  match Real.parse? (cs.filter (· ≠ '_')) with
  | some (.infinite _) => true
  | _ => false

/-- A number that is not an integer. -/
def real? (word : List Char) : Option Json :=
  let unsigned := (sign word).2
  if unsigned = ['i', 'n', 'f'] ∨ unsigned = ['n', 'a', 'n'] ∨
      (isFraction unsigned ∧ ¬ isTooLarge unsigned) then
    some (.real (String.ofList word))
  else none

/-- The number of exactly so many digits. -/
def fixed? (count : Nat) (cs : List Char) : Option Nat :=
  if cs.length = count ∧ cs.all isDigit then some (digitsValue 10 cs) else none

def daysInMonth (year month : Nat) : Nat :=
  if month = 2 then
    if year % 4 = 0 ∧ (year % 100 ≠ 0 ∨ year % 400 = 0) then 29 else 28
  else if month = 4 ∨ month = 6 ∨ month = 9 ∨ month = 11 then 30
  else 31

/-- Whether some characters are a date. -/
def isDate (cs : List Char) : Bool :=
  match splitChars '-' cs with
  | [year, month, day] =>
    match fixed? 4 year, fixed? 2 month, fixed? 2 day with
    | some year, some month, some day =>
      1 ≤ month && month ≤ 12 && 1 ≤ day && day ≤ daysInMonth year month
    | _, _, _ => false
  | _ => false

/-- Whether some characters are hours or minutes, below a limit. -/
def isBelow (limit : Nat) (cs : List Char) : Bool :=
  match fixed? 2 cs with
  | some n => n < limit
  | none => false

/-- Whether some characters are seconds with or without a fraction. -/
def isSeconds (cs : List Char) : Bool :=
  match cutChars '.' cs with
  | some (whole, places) => isBelow 61 whole && places ≠ [] && places.all isDigit
  | none => isBelow 61 cs

/-- Whether some characters are a time of day. The seconds may be left out. -/
def isTime (cs : List Char) : Bool :=
  match splitChars ':' cs with
  | [hours, minutes] => isBelow 24 hours && isBelow 60 minutes
  | [hours, minutes, seconds] => isBelow 24 hours && isBelow 60 minutes && isSeconds seconds
  | _ => false

/-- Whether some characters are a time of day with an offset. -/
def isOffsetTime (cs : List Char) : Bool :=
  match cs.getLast? with
  | some 'Z' | some 'z' => isTime cs.dropLast
  | _ =>
    let time := cs.takeWhile fun c => c ≠ '+' && c ≠ '-'
    match cs.drop time.length with
    | _ :: offset =>
      match splitChars ':' offset with
      | [hours, minutes] => isTime time && isBelow 24 hours && isBelow 60 minutes
      | _ => false
    | [] => false

/-- Whether some characters are a date, a time, or both. -/
def isMoment (cs : List Char) : Bool :=
  isDate cs || isTime cs ||
    (isDate (cs.take 10) &&
      match cs.drop 10 with
      | mark :: time =>
        (mark = 'T' || mark = 't' || mark = ' ') && (isTime time || isOffsetTime time)
      | [] => false)

/-- The value of a word. -/
def word? (cs : List Char) : Option Json :=
  if cs = ['t', 'r', 'u', 'e'] then some (.bool true)
  else if cs = ['f', 'a', 'l', 's', 'e'] then some (.bool false)
  else
    match based? cs with
    | some json => some json
    | none =>
      match plainInteger? cs with
      | some json => some json
      | none =>
        match real? cs with
        | some json => some json
        | none => if isMoment cs then some (.real (String.ofList cs)) else none

/-- A word at the beginning of some characters and what follows it. A date takes a time with it
that stands after one space. -/
def word (cs : List Char) : List Char × List Char :=
  let first := cs.takeWhile isWordChar
  match cs.drop first.length with
  | ' ' :: rest =>
    if isDate first && (rest.head?.map isDigit).getD false then
      let second := rest.takeWhile isWordChar
      (first ++ ' ' :: second, rest.drop second.length)
    else (first, ' ' :: rest)
  | rest => (first, rest)

end Blueprint.Toml
