/-!
Comma-separated records. A field that holds a comma, a quotation mark or a line break is put between
quotation marks, and the quotation marks in it are doubled; any other field stands as it is.
-/

namespace Blueprint.Csv

/-- Whether a character may stand only between quotation marks. -/
def isSpecial (c : Char) : Bool := c = ',' || c = '"' || c = '\n' || c = '\r'

/-- A character between quotation marks. -/
def doubled (c : Char) : List Char := if c = '"' then ['"', '"'] else [c]

/-- The written form of a field. -/
def fieldChars (cs : List Char) : List Char :=
  if cs.any isSpecial then '"' :: cs.flatMap doubled ++ ['"'] else cs

/-- The written form of a field. -/
def field (s : String) : String := String.ofList (fieldChars s.toList)

/-- The line of a record. -/
def line (fields : List String) : String := String.intercalate "," (fields.map field)

end Blueprint.Csv
