import Blueprint.Text.Ascii

/-!
Small decimal numbers as people write them: digits, with leading zeros allowed and a plus sign in
front if need be.
-/

namespace Blueprint.Text

/-- The digits after an optional plus sign. -/
def unsignedDigits : List Char → List Char
  | '+' :: rest => rest
  | cs => cs

/-- The number written by decimal digits, none when there is no digit or a character that is not
one, or when the number is above the limit. -/
def decimalChars? (limit : Nat) (cs : List Char) : Option Nat :=
  let digits := unsignedDigits cs
  if digits ≠ [] ∧ digits.all isDigit ∧ digitsValue 10 digits ≤ limit then
    some (digitsValue 10 digits)
  else none

/-- The number of at most `limit` that a text writes. -/
def decimal? (limit : Nat) (s : String) : Option Nat := decimalChars? limit s.toList

/-- Why a text writes no number of at most some limit. -/
inductive NumberError where
  | empty
  | badDigit
  | tooLarge
  deriving DecidableEq

def NumberError.message : NumberError → String
  | empty => "cannot parse integer from empty string"
  | badDigit => "invalid digit found in string"
  | tooLarge => "number too large to fit in target type"

/-- The number of at most `limit` that goes on with some digits. The first digit at which it fails
decides about the error. -/
def readDigits (limit n : Nat) : List Char → Except NumberError Nat
  | [] => .ok n
  | c :: rest =>
    if !isDigit c then .error .badDigit
    else if limit < n * 10 + hexValue c then .error .tooLarge
    else readDigits limit (n * 10 + hexValue c) rest

/-- The number of at most `limit` that a text writes, or what is wrong with the text. -/
def readNumber (limit : Nat) (s : String) : Except NumberError Nat :=
  match s.toList with
  | [] => .error .empty
  | ['+'] => .error .badDigit
  | cs => readDigits limit 0 (unsignedDigits cs)

end Blueprint.Text
