import Blueprint.Text.Ascii
import Blueprint.Text.Hidden

/-!
Texts in quotation marks, as they are shown to a reader. The quotation mark and the backslash are
escaped, line breaks, the tabulator and the null character have short escapes, and every other
character that cannot be seen is given by its number in braces.
-/

namespace Blueprint.Text

/-- The form of a character that is given by its number. -/
def numbered (c : Char) : List Char := '\\' :: 'u' :: '\x7b' :: hex c.toNat ++ ['\x7d']

/-- The form of a character between quotation marks. -/
def quotedChar (c : Char) : List Char :=
  if c = '"' then ['\\', '"']
  else if c = '\\' then ['\\', '\\']
  else if c = '\n' then ['\\', 'n']
  else if c = '\r' then ['\\', 'r']
  else if c = '\t' then ['\\', 't']
  else if c.toNat = 0 then ['\\', '0']
  else if c.toNat < 32 then numbered c
  else if c.toNat < 127 then [c]
  else if isHidden c then numbered c
  else [c]

/-- A text between quotation marks. -/
def quoted (s : String) : String := String.ofList ('"' :: s.toList.flatMap quotedChar ++ ['"'])

end Blueprint.Text
