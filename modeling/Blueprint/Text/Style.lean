/-!
Styles of terminal text. A style is switched on by a control sequence before the text and switched
off by another one after it. Bold and dim text is ended by the sequence that ends every style;
colours are ended by the one that restores the colour of the terminal.
-/

namespace Blueprint.Text

inductive Style where
  | bold
  | dim
  | red
  | green
  | yellow
  | blue
  | cyan
  deriving DecidableEq

namespace Style

/-- The control sequence with a number. -/
def sequence (n : Nat) : String := "\x1b[" ++ toString n ++ "m"

def startNumber : Style → Nat
  | bold => 1
  | dim => 2
  | red => 31
  | green => 32
  | yellow => 33
  | blue => 34
  | cyan => 36

/-- The number that switches a style off. -/
def endNumber : Style → Nat
  | bold | dim => 0
  | _ => 39

def apply (style : Style) (s : String) : String :=
  sequence style.startNumber ++ s ++ sequence style.endNumber

end Style

end Blueprint.Text
