import Blueprint.Text.Ascii
import Blueprint.Text.Split

/-!
The textual forms of internet addresses. A version 4 address is four decimal numbers up to 255
without leading zeros. A version 6 address is eight hexadecimal groups of up to four digits; two
colons in a row stand once for one or more zero groups, and the last two groups may be written as a
version 4 address.
-/

namespace Blueprint.Address

open Text

/-- A decimal number up to 255, at most three digits and no needless zero in front. -/
def isOctet (cs : List Char) : Bool :=
  cs ≠ [] && cs.length ≤ 3 && cs.all isDigit && (cs.length = 1 || cs.head? ≠ some '0') &&
    digitsValue 10 cs ≤ 255

/-- The text of a version 4 address. -/
def isV4 (cs : List Char) : Bool :=
  let octets := splitChars '.' cs
  octets.length = 4 && octets.all isOctet

/-- A group of up to four hexadecimal digits. -/
def isGroup (cs : List Char) : Bool := cs ≠ [] && cs.length ≤ 4 && cs.all isHex

/-- The number of groups that the parts between colons stand for, none when a part is not a group.
Where `closing` is set, the last part may be a version 4 address, which stands for two. -/
def groupCount? (closing : Bool) : List (List Char) → Option Nat
  | [] => some 0
  | [part] => if isGroup part then some 1 else if closing && isV4 part then some 2 else none
  | part :: parts => if isGroup part then (groupCount? closing parts).map (· + 1) else none

/-- The number of groups in a text without doubled colons; the empty text has none. -/
def groupsIn? (closing : Bool) (cs : List Char) : Option Nat :=
  if cs = [] then some 0 else groupCount? closing (splitChars ':' cs)

/-- The text before and the text after the first two colons in a row. -/
def cutDoubled : List Char → Option (List Char × List Char)
  | ':' :: ':' :: rest => some ([], rest)
  | c :: rest => (cutDoubled rest).map fun (before, after) => (c :: before, after)
  | [] => none

/-- The text of a version 6 address. -/
def isV6 (cs : List Char) : Bool :=
  match cutDoubled cs with
  | none => groupsIn? true cs = some 8
  | some (before, after) =>
    match groupsIn? false before, groupsIn? true after with
    | some m, some n => m + n ≤ 7
    | _, _ => false

end Blueprint.Address
