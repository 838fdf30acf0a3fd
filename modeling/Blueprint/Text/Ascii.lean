/-!
Character classes that the configuration language, resource identifiers and addresses are written
in. Each class holds ASCII characters only; a letter of another script is in none of them.
-/

namespace Blueprint.Text

/-- The letters `a` to `z`. -/
def isLower (c : Char) : Bool := 'a' ≤ c && c ≤ 'z'

/-- The letters `A` to `Z`. -/
def isUpper (c : Char) : Bool := 'A' ≤ c && c ≤ 'Z'

/-- The digits `0` to `9`. -/
def isDigit (c : Char) : Bool := '0' ≤ c && c ≤ '9'

/-- A letter of either case. -/
def isLetter (c : Char) : Bool := isLower c || isUpper c

def isAlnum (c : Char) : Bool := isLetter c || isDigit c

/-- A hexadecimal digit of either case. -/
def isHex (c : Char) : Bool := isDigit c || ('a' ≤ c && c ≤ 'f') || ('A' ≤ c && c ≤ 'F')

/-- The value of a hexadecimal digit; 0 for any other character. -/
def hexValue (c : Char) : Nat :=
  if isDigit c then c.toNat - '0'.toNat
  else if 'a' ≤ c && c ≤ 'f' then c.toNat - 'a'.toNat + 10
  else if 'A' ≤ c && c ≤ 'F' then c.toNat - 'A'.toNat + 10
  else 0

/-- The number written by digits in a base, most significant first. The digits are taken by
`hexValue`, so the caller has checked that they belong to the base. -/
def digitsValue (base : Nat) (digits : List Char) : Nat :=
  digits.foldl (fun n c => n * base + hexValue c) 0

/-- Capital letters made small; every other character is kept. -/
def lower (s : String) : String := s.map Char.toLower

def total (numbers : List Nat) : Nat := numbers.foldr (fun n sum => n + sum) 0

/-- The number of bytes that some characters take in UTF-8. -/
def charsByteCount (cs : List Char) : Nat := total (cs.map Char.utf8Size)

/-- The number of bytes that a text takes in UTF-8. All length limits count these. -/
def byteCount (s : String) : Nat := charsByteCount s.toList

/-- A lower-case hexadecimal digit for a number below sixteen. -/
def hexDigit (n : Nat) : Char := if n < 10 then Char.ofNat (48 + n) else Char.ofNat (87 + n)

/-- A number in lower-case hexadecimal, without leading zeros. -/
def hex (n : Nat) : List Char := Nat.toDigits 16 n

end Blueprint.Text
