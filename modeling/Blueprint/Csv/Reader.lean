/-!
Reading comma-separated records. Commas end fields and line feeds end records. A field that begins
with a quotation mark goes on to the next single one, and everything between them belongs to it:
commas and line breaks as they are, a doubled quotation mark as one. Outside of quotation marks
neither a quotation mark nor a carriage return can stand.
-/

namespace Blueprint.Csv

/-- Where a reader is in a field. -/
inductive Spot where
  | start
  /-- In a field without quotation marks. -/
  | plain
  /-- Between quotation marks. -/
  | quoted
  /-- Behind a quotation mark, which ends the field unless another one follows. -/
  | closed
  deriving DecidableEq

/-- A reader with what it has read: records, fields of the next record, and characters of the next
field. -/
structure Reader where
  records : List (List String) := []
  fields : List String := []
  chars : List Char := []
  spot : Spot := .start

namespace Reader

def add (r : Reader) (c : Char) (spot : Spot) : Reader := { r with chars := r.chars ++ [c], spot }

def endField (r : Reader) : Reader :=
  { r with fields := r.fields ++ [String.ofList r.chars], chars := [], spot := .start }

def endRecord (r : Reader) : Reader :=
  { records := r.records ++ [r.endField.fields] }

/-- Go on with a character behind a field without quotation marks or in it. -/
def stepPlain (r : Reader) (c : Char) : Option Reader :=
  if c = ',' then some r.endField
  else if c = '\n' then some r.endRecord
  else if c = '"' || c = '\r' then none
  else some (r.add c .plain)

/-- Go on with a character. -/
def step (r : Reader) (c : Char) : Option Reader :=
  match r.spot with
  | .start => if c = '"' then some { r with spot := .quoted } else r.stepPlain c
  | .plain => r.stepPlain c
  | .quoted => some (if c = '"' then { r with spot := .closed } else r.add c .quoted)
  | .closed =>
    if c = '"' then some (r.add c .quoted)
    else if c = ',' then some r.endField
    else if c = '\n' then some r.endRecord
    else none

/-- Go on with some characters. -/
def steps (r : Reader) (cs : List Char) : Option Reader := cs.foldlM step r

/-- The records at the end of the text. The last one need not end with a line feed. -/
def finish (r : Reader) : Option (List (List String)) :=
  match r.spot with
  | .quoted => none
  | .start => some (if r.fields = [] then r.records else r.endRecord.records)
  | _ => some r.endRecord.records

end Reader

/-- The records of a text, none when it is not made of records. -/
def read (text : String) : Option (List (List String)) :=
  (({} : Reader).steps text.toList).bind Reader.finish

end Blueprint.Csv
