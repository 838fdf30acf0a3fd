import Blueprint.Error
import Blueprint.Machine.Script
import Blueprint.Text.Split
import Blueprint.Text.Style

/-!
Why a command fails, and what the user is told. A report consists of the message, the causes of the
error if the user wants to know more, and suggestions. The category of an error decides the exit
status.
-/

namespace Blueprint

/-- Why a command fails. -/
inductive CommandError where
  /-- The command line was understood, but asks for something that cannot be done. -/
  | invalidInput (message : String)
  /-- A file is in the way, and nobody has asked to replace it. -/
  | fileExists (path : String)
  /-- The preferences cannot be used. -/
  | badPreferences (message : String) (cause : Option String)
  | failure (failure : Failure)
  /-- A file cannot be made. -/
  | fileFailed (message cause : String)
  /-- A result has no written form. -/
  | unwritable (what cause : String)
  | cancelled
  deriving DecidableEq

def Category.exitStatus : Category → Nat
  | validation => 2
  | notFound => 3
  | configuration => 4
  | internal => 1

/-- The level and the beginning of the event that tells an error of a category. -/
def Category.telling : Category → Trace.Level × String
  | validation => (.warn, "User error")
  | notFound => (.warn, "Not found")
  | configuration => (.error, "Configuration error")
  | internal => (.error, "Internal error")

namespace Failure

/-- The texts of what lies behind a failure, from the outside to the inside. -/
def causes (f : Failure) : List String :=
  match f with
  | model error => [f.message, error.message]
  | synthesis error => [f.message, error.message]
  | configuration _ | internal _ => [f.message]

end Failure

namespace CommandError

/-- The text of an error. -/
def message : CommandError → String
  | invalidInput message => s!"Invalid input: {message}"
  | fileExists path => s!"File already exists at {path}"
  | badPreferences message _ => s!"Configuration error: {message}"
  | failure f => f.message
  | fileFailed message _ => s!"I/O error: {message}"
  | unwritable what _ => s!"Failed to serialise {what}"
  | cancelled => "Operation cancelled"

/-- The texts of what lies behind an error, from the outside to the inside. -/
def causes : CommandError → List String
  | badPreferences _ cause => cause.toList
  | failure f => f.causes
  | fileFailed _ cause | unwritable _ cause => [cause]
  | _ => []

/-- What to do about an error. The preferences file of the user is named where it may be at
fault. -/
def suggestions (preferencesFile : String) : CommandError → List String
  | invalidInput message => [s!"Check your input: {message}", "Use --help for usage information"]
  | fileExists path =>
    [s!"'{path}' already exists", "Use --force to overwrite it",
      "Or write somewhere else with --path"]
  | badPreferences message _ =>
    [s!"Configuration issue: {message}", s!"Check your settings file at {preferencesFile}",
      "TIERSTACK_* environment variables override the file"]
  | failure f => f.suggestions
  | fileFailed message _ =>
    [s!"I/O operation failed: {message}", "Check file permissions",
      "Ensure the parent directory exists"]
  | unwritable .. => ["This appears to be a bug in tierstack", "Try --output-format plain"]
  | cancelled => ["No changes were made"]

def category : CommandError → Category
  | invalidInput _ | fileExists _ | cancelled => .validation
  | badPreferences .. => .configuration
  | failure f => f.category
  | fileFailed .. | unwritable .. => .internal

def exitStatus (e : CommandError) : Nat := e.category.exitStatus

/-- The report of an error. Its causes are given if it is verbose. -/
def report (preferencesFile : String) (verbose : Bool) (e : CommandError) : String :=
  Text.ofLines
    (["", s!"Error: {e.message}"] ++
      (if verbose then e.causes.map (s!"  Caused by: {·}") else []) ++
      ["", "Suggestions:"] ++ (e.suggestions preferencesFile).map (s!"  {·}") ++
      (if verbose then [] else ["", "Use -v / --verbose for more details."]))

def strong (colour : Text.Style) (s : String) : String := Text.Style.bold.apply (colour.apply s)

def colouredReport (preferencesFile : String) (verbose : Bool) (e : CommandError) : String :=
  Text.ofLines
    (["", strong .red "✗" ++ " " ++ strong .red "Error:", "",
        "  " ++ Text.Style.red.apply e.message] ++
      (if verbose then
        e.causes.flatMap fun cause =>
          ["", "  " ++ Text.Style.dim.apply "→" ++ " " ++ Text.Style.dim.apply cause]
      else []) ++
      ["", strong .yellow "Suggestions:"] ++ (e.suggestions preferencesFile).map (s!"  {·}") ++
      (if verbose then []
      else
        ["", Text.Style.blue.apply "ℹ" ++ " " ++
          Text.Style.dim.apply "Use -v / --verbose for more details."]))

/-- Put an error on record, with the cause next to it. -/
def record (e : CommandError) : Script Unit := do
  let (level, kind) := e.category.telling
  Script.note level .report s!"{kind}: {e.message}" []
  if let cause :: _ := e.causes then
    Script.note .debug .report s!"Caused by: {cause}" []

end CommandError

end Blueprint
