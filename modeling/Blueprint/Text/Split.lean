/-!
Texts and what they are made of. A text with `n` separators is split into `n + 1` parts, so the
empty text has one empty part, and putting the separator back between the parts gives the text
again. In a text of lines each line has its end, also the last one.
-/

namespace Blueprint.Text

/-- The parts of a list between the places where a separator stands. -/
def splitChars (sep : Char) : List Char → List (List Char)
  | [] => [[]]
  | c :: rest =>
    if c = sep then [] :: splitChars sep rest
    else
      match splitChars sep rest with
      | [] => [[c]]
      | part :: parts => (c :: part) :: parts

/-- The parts of a text between the places where a separator stands. -/
def split (sep : Char) (s : String) : List String := (splitChars sep s.toList).map String.ofList

/-- The text before and the text after the first separator. -/
def cutChars (sep : Char) : List Char → Option (List Char × List Char)
  | [] => none
  | c :: rest =>
    if c = sep then some ([], rest)
    else (cutChars sep rest).map fun (before, after) => (c :: before, after)

/-- The rest of a list after a given beginning, when it begins that way. -/
def afterChars : List Char → List Char → Option (List Char)
  | [], cs => some cs
  | _ :: _, [] => none
  | s :: start, c :: cs => if s = c then afterChars start cs else none

/-- The rest of a text after a given beginning, when it begins that way. -/
def after (start s : String) : Option String :=
  (afterChars start.toList s.toList).map String.ofList

/-- Whether a text begins with another one. -/
def startsWith (start s : String) : Bool := (afterChars start.toList s.toList).isSome

def endsWith (ending s : String) : Bool :=
  (afterChars ending.toList.reverse s.toList.reverse).isSome

/-- The text of some lines, each with a line feed behind it. -/
def ofLines (lines : List String) : String := String.join (lines.map (· ++ "\n"))

theorem splitChars_ne_nil (sep : Char) (cs : List Char) : splitChars sep cs ≠ [] := by
  cases cs with
  | nil => simp [splitChars]
  | cons c rest =>
    unfold splitChars
    split
    · simp
    · split <;> simp

end Blueprint.Text
