import Blueprint.Command.Workplace
import Blueprint.Settings.Validation
import Blueprint.Toml.Printer

/-!
The command that starts a project: it writes the sample document with a beginning of all names that
the user chooses. Nothing is written unless the document can be read and its settings are valid.
-/

namespace Blueprint

/-- The sample with a beginning of all names, in a format. -/
def Sample.render (format : Format) (namePrefix : String) : Except CommandError String := do
  let text := document namePrefix
  match Format.json.parse text with
  | .error e =>
    throw (.invalidInput
      s!"prefix '{namePrefix}' does not produce a valid document: {e.message}")
  | .ok d =>
    match d.validate with
    | .error e => throw (.invalidInput s!"prefix '{namePrefix}': {e.message}")
    | .ok _ =>
      match format with
      | .json => return text
      | .toml => return Toml.document (Document.keys.zip d.values)

namespace Command

open Script

/-- Change a file, or say what could not be done. -/
def perform (c : Change) (message : String) : Job CommandError Unit := do
  match ← change c with
  | .ok () => return
  | .error fault => throw (.fileFailed message fault.text)

/-- What to do after the document has been written. -/
def nextSteps : List String :=
  ["", "Next steps:", "  set dnsDomain to a zone you control", "  tierstack validate",
    "  tierstack synth"]

def writeSample (w : Workplace) (namePrefix : String) (path? : Option String) (force : Bool) :
    Job CommandError Unit :=
  Job.within ⟨"execute", .initCommand, [("prefix", .bare namePrefix)]⟩ do
    let path := path?.getD w.document
    let isThere ← pathExists path
    if isThere && !force then throw (.fileExists path)
    if isThere then w.console.warning s!"Overwriting {path}"
    let text ← .ofExcept (Sample.render (.ofPath path) namePrefix)
    if let some directory := (Path.directory? path).filter (· ≠ "") then
      perform (.makeDirs directory) s!"Failed to create directory '{directory}'"
    perform (.write path text) s!"Failed to write '{path}'"
    note .debug .initCommand "Sample written" [("path", .bare path)]
    w.console.success s!"Stack configuration created at {path}"
    nextSteps.forM fun line => w.console.message line

end Command

end Blueprint
