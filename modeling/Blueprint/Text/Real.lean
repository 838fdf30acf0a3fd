import Blueprint.Text.Ascii
import Blueprint.Text.Split

/-!
Numbers with a fraction, in double precision. A decimal text is rounded to the nearest number of the
form `n * 2 ^ q` with at most fifty-three binary digits, of two equally near ones to the one with an
even `n`. A number is written with the fewest digits that are rounded to it again, without an
exponent.
-/

namespace Blueprint.Text

/-- A number of double precision. -/
inductive Real where
  | nan
  | infinite (negative : Bool)
  /-- The number `significand * 2 ^ exponent` with a sign. -/
  | finite (negative : Bool) (significand : Nat) (exponent : Int)
  deriving DecidableEq

namespace Real

/-- A quotient rounded to the nearest integer, of two to the even one. -/
def roundDiv (a b : Nat) : Nat :=
  if 2 * (a % b) < b ∨ (2 * (a % b) = b ∧ a / b % 2 = 0) then a / b else a / b + 1

/-- A number times a power, if the exponent is not negative. -/
def scale (n base : Nat) (exponent : Int) : Nat := n * Nat.pow base exponent.toNat

/-- The first of fifty-three binary digits. -/
def leadingDigit : Nat := 4503599627370496

/-- The exponent of the greatest power of two that a fraction reaches, or one more. -/
def binaryOrder (a b : Nat) : Int := (a.log2 : Int) - b.log2

/-- The fraction `a / b` in double precision. -/
def ofFraction (negative : Bool) (a b : Nat) : Real :=
  if a = 0 then finite negative 0 (-1074)
  else
    let order := binaryOrder a b
    let reaches := scale b 2 order ≤ scale a 2 (-order)
    let q := max (-1074) ((if reaches then order else order - 1) - 52)
    let n := roundDiv (scale a 2 (-q)) (scale b 2 q)
    let (n, q) := if n = 2 * leadingDigit then (leadingDigit, q + 1) else (n, q)
    if 971 < q then infinite negative else finite negative n q

/-- The number `n * 10 ^ e` in double precision. -/
def ofDecimal (negative : Bool) (n : Nat) (e : Int) : Real :=
  let order := (Nat.toDigits 10 n).length + e
  if n = 0 ∨ order < -400 then finite negative 0 (-1074)
  else if 400 < order then infinite negative
  else ofFraction negative (scale n 10 e) (scale 1 10 (-e))

/-- The exponent after its letter: a sign, perhaps, and digits. -/
def power? (cs : List Char) : Option Int :=
  let (negative, digits) := match cs with
    | '+' :: rest => (false, rest)
    | '-' :: rest => (true, rest)
    | cs => (false, cs)
  if digits ≠ [] && digits.all isDigit then
    some (if negative then -(digitsValue 10 digits : Int) else digitsValue 10 digits)
  else none

/-- The number of a text without a sign. -/
def unsigned? (negative : Bool) (cs : List Char) : Option Real :=
  let word := lower (String.ofList cs)
  if word = "inf" || word = "infinity" then some (infinite negative)
  else if word = "nan" then some nan
  else
    let mantissa := cs.takeWhile fun c => c ≠ 'e' && c ≠ 'E'
    let power := match cs.drop mantissa.length with
      | [] => some 0
      | _ :: rest => power? rest
    let (whole, places) := (cutChars '.' mantissa).getD (mantissa, [])
    let digits := whole ++ places
    if digits ≠ [] && digits.all isDigit then
      power.map fun e => ofDecimal negative (digitsValue 10 digits) (e - places.length)
    else none

/-- The number that a text writes. -/
def parse? (cs : List Char) : Option Real :=
  match cs with
  | '+' :: rest => unsigned? false rest
  | '-' :: rest => unsigned? true rest
  | cs => unsigned? false cs

/-- Whether a number is zero. -/
def isZero : Real → Bool
  | finite _ n _ => n = 0
  | _ => false

/-- The multiple of a power of ten that lies closest to `v / d`, if one lies between `low / d` and
`high / d`. -/
def closest? (v low high d : Nat) (even : Bool) (e : Int) : Option Nat :=
  let unit := scale d 10 e
  let times (n : Nat) := scale n 10 (-e)
  let below := times v / unit
  let fits (n : Nat) :=
    let x := n * unit
    if even then times low ≤ x && x ≤ times high else times low < x && x < times high
  match fits below, fits (below + 1) with
  | true, true => some (if 2 * (times v % unit) < unit then below else below + 1)
  | true, false => some below
  | false, true => some (below + 1)
  | false, false => none

/-- The fewest digits for `n * 2 ^ q`, and the power of ten that they count. -/
def shortest (n : Nat) (q : Int) : Nat × Int :=
  let v := scale (4 * n) 2 q
  let step := scale 1 2 q
  let d := scale 4 2 (-q)
  let low := if n = leadingDigit ∧ -1074 < q then v - step else v - 2 * step
  let order : Int := (Nat.toDigits 10 (v / d)).length
  let start := if v / d = 0 then (0 : Int) - (Nat.toDigits 10 (d / v)).length + 1 else order
  ((List.range 20).findSome? fun (k : Nat) =>
    (closest? v low (v + 2 * step) d (n % 2 = 0) (start - k)).map fun m => (m, start - k)).getD
    (n, 0)

/-- Digits that count a power of ten, with a point where it belongs. -/
def positional (m : Nat) (e : Int) : List Char :=
  let digits := Nat.toDigits 10 m
  if 0 ≤ e then digits ++ List.replicate e.toNat '0'
  else
    let places := (-e).toNat
    let padded := List.replicate (places + 1 - digits.length) '0' ++ digits
    padded.take (padded.length - places) ++ '.' :: padded.drop (padded.length - places)

/-- The text of a number. -/
def text : Real → String
  | nan => "NaN"
  | infinite negative => if negative then "-inf" else "inf"
  | finite negative n q =>
    let digits := if n = 0 then ['0'] else
      let (m, e) := shortest n q
      positional m e
    String.ofList (if negative then '-' :: digits else digits)

end Real

end Blueprint.Text
