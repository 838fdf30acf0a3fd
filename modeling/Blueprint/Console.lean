import Blueprint.Command.Invocation
import Blueprint.Machine.Script
import Blueprint.Text.Style

/-!
What a command says to the user. Results are always written. Messages about what is going on are
left out if the user wants quiet, or if the output is one JSON value.
-/

namespace Blueprint

/-- How a command talks to the user. -/
structure Console where
  /-- Whether the output is one JSON value. -/
  json : Bool
  quiet : Bool
  /-- Whether messages are coloured. -/
  coloured : Bool
  deriving DecidableEq

def OutputFormat.isForPeople (format : OutputFormat) (isTerminal : Bool) : Bool :=
  format = .human || (format = .auto && isTerminal)

namespace Console

/-- The console for a format. Only the format for people has colours, and only if nobody objects to
them. -/
def ofFormat (format : OutputFormat) (isTerminal quiet noColour : Bool) : Console :=
  { json := format = .json, quiet, coloured := format.isForPeople isTerminal && !noColour }

/-- Whether messages are written. -/
def isChatty (console : Console) : Bool := !console.quiet && !console.json

/-- Write a result. -/
def result (_ : Console) (line : String) : Script Unit := Script.say line

/-- Write a message. -/
def message (console : Console) (line : String) : Script Unit :=
  if console.isChatty then Script.say line else return

/-- Write a message with a mark in a colour before it. -/
def marked (console : Console) (mark : String) (colour : Text.Style) (line : String) :
    Script Unit :=
  console.message <|
    if console.coloured then Text.Style.bold.apply (colour.apply mark) ++ " " ++ colour.apply line
    else mark ++ " " ++ line

/-- Write that something is done. -/
def success (console : Console) (line : String) : Script Unit := console.marked "✓" .green line

/-- Write that something should be known. -/
def warning (console : Console) (line : String) : Script Unit := console.marked "⚠" .yellow line

/-- Write that something may be of interest. -/
def info (console : Console) (line : String) : Script Unit := console.marked "ℹ" .blue line

/-- Write a heading. -/
def heading (console : Console) (line : String) : Script Unit :=
  console.message <|
    if console.coloured then Text.Style.bold.apply (Text.Style.cyan.apply line) else line

end Console

end Blueprint
