import Blueprint.Command.Error
import Blueprint.Console
import Blueprint.Preferences
import Blueprint.Synthesis

/-!
What a command has to work with: what the user has asked for and prefers, and how to talk to the
user.
-/

namespace Blueprint

/-- The surroundings of a command. -/
structure Workplace where
  env : Environment
  shared : SharedOptions
  preferences : Preferences
  /-- Whether the output goes to a terminal. -/
  isTerminal : Bool

namespace Workplace

/-- The console of a command. -/
def console (w : Workplace) : Console :=
  .ofFormat w.shared.format w.isTerminal w.shared.quiet
    (w.shared.noColour || w.preferences.noColour)

/-- Whether the user sits at the terminal and can be asked. -/
def isInteractive (w : Workplace) : Bool :=
  w.isTerminal && w.shared.format.isForPeople w.isTerminal

/-- The path of the settings document. -/
def document (w : Workplace) : String := w.shared.document.getD w.preferences.document

/-- What a change of real files is called when it fails. -/
def fileReason (c : Change) (fault : Fault) : String :=
  let action := match c with
    | .makeDirs _ => "create directory"
    | .write .. => "write file"
    | .removeTree _ => "remove directory"
  s!"Failed to {action}: {fault.text}"

/-- The means of a synthesis from the settings document. -/
def synthesizer (w : Workplace) : Synthesizer :=
  { source :=
      (Source.file w.document).orRegion
        (Source.fallbackRegion w.shared.region w.preferences.region w.env.get?)
    render := Assembly.renderNoted false
    reason := fileReason }

def carryOut {α : Type} (job : Job Failure α) : Job CommandError α := Job.mapError .failure job

/-- The deployment for the settings document. -/
def deployment (w : Workplace) : Job CommandError Deployment := carryOut w.synthesizer.plan

end Workplace

end Blueprint
