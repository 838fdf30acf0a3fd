import Blueprint.Text.Ascii

/-!
Identifiers made from random bytes. An identifier is written as 32 hexadecimal digits in five
groups. The first digit of the third group tells that it is random, and the first digit of the
fourth group tells how the others are laid out.
-/

namespace Blueprint.Identifier

/-- The bytes with the digits that tell the kind of the identifier in their places. -/
def marked (bytes : List UInt8) : List UInt8 :=
  (bytes.modify 6 fun b => b % 0x10 + 0x40).modify 8 fun b => b % 0x40 + 0x80

def byteDigits (b : UInt8) : List Char :=
  [Text.hexDigit (b.toNat / 16), Text.hexDigit (b.toNat % 16)]

/-- The digits in groups of the given sizes. -/
def groups (digits : List Char) : List Nat → List String
  | [] => []
  | size :: rest => String.ofList (digits.take size) :: groups (digits.drop size) rest

/-- The identifier that is made from sixteen bytes. -/
def ofBytes (bytes : List UInt8) : String :=
  String.intercalate "-" (groups ((marked bytes).flatMap byteDigits) [8, 4, 4, 4, 12])

theorem length_marked (bytes : List UInt8) : (marked bytes).length = bytes.length := by
  simp [marked]

example : ofBytes (List.replicate 16 0xFF) = "ffffffff-ffff-4fff-bfff-ffffffffffff" := by
  decide +kernel

example : ofBytes (List.replicate 16 0) = "00000000-0000-4000-8000-000000000000" := by
  decide +kernel

end Blueprint.Identifier
