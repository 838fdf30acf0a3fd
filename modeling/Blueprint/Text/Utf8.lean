/-!
Text from bytes that may not be well-formed UTF-8. Every longest run of bytes that begins a
character but does not complete one is read as the replacement character, and so is every byte that
begins none.
-/

namespace Blueprint.Text

/-- The character in the place of bytes that are none. -/
def replacement : Char := '\uFFFD'

/-- Whether a byte continues a character. -/
def isContinuation (b : UInt8) : Bool := 0x80 ≤ b && b ≤ 0xBF

/-- Whether a byte may follow the first byte of a character of more than one. -/
def mayFollow (first second : UInt8) : Bool :=
  if first = 0xE0 then 0xA0 ≤ second && second ≤ 0xBF
  else if first = 0xED then 0x80 ≤ second && second ≤ 0x9F
  else if first = 0xF0 then 0x90 ≤ second && second ≤ 0xBF
  else if first = 0xF4 then 0x80 ≤ second && second ≤ 0x8F
  else isContinuation second

/-- The number of bytes of the character that a byte begins, 0 if it begins none. -/
def charWidth (b : UInt8) : Nat :=
  if b < 0x80 then 1
  else if 0xC2 ≤ b && b ≤ 0xDF then 2
  else if 0xE0 ≤ b && b ≤ 0xEF then 3
  else if 0xF0 ≤ b && b ≤ 0xF4 then 4
  else 0

/-- The character of a first byte and the bytes that continue it. -/
def charOfBytes (first : UInt8) (others : List UInt8) : Char :=
  let lead := match others.length with
    | 0 => first.toNat
    | 1 => first.toNat - 0xC0
    | 2 => first.toNat - 0xE0
    | _ => first.toNat - 0xF0
  Char.ofNat (others.foldl (fun n b => n * 64 + (b.toNat - 0x80)) lead)

/-- The bytes after the first one that continue its character. -/
def continuing (first : UInt8) (rest : List UInt8) : List UInt8 :=
  match rest with
  | second :: more =>
    if 2 ≤ charWidth first && mayFollow first second then
      second :: (more.take (charWidth first - 2)).takeWhile isContinuation
    else []
  | [] => []

/-- The text of some bytes. -/
def decodeLossyFuel : Nat → List UInt8 → List Char
  | _, [] => []
  | 0, _ => []
  | fuel + 1, first :: rest =>
    let others := continuing first rest
    let c := if others.length + 1 = charWidth first then charOfBytes first others else replacement
    c :: decodeLossyFuel fuel (rest.drop others.length)

/-- The text of some bytes, with the replacement character for those that are none. -/
def decodeLossy (bytes : ByteArray) : String :=
  String.ofList (decodeLossyFuel bytes.size bytes.data.toList)

end Blueprint.Text
