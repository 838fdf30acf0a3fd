import Blueprint.Command.Completion
import Blueprint.Command.Init
import Blueprint.Command.Outputs
import Blueprint.Command.Synth
import Blueprint.Command.Validate
import Blueprint.Trace.Filter

/-!
A run of the program: the preferences are loaded, the command does its work, and an error ends the
run. All of it is put on record.
-/

namespace Blueprint

open Script

/-- Do what a command asks for. -/
def Command.execute (w : Workplace) : Command → Job CommandError Unit
  | synth out force assent dryRun => synthesize w out force assent dryRun
  | validate json => checkDocument w json
  | outputs exported format => listOutputs w exported format
  | init namePrefix path force => writeSample w namePrefix path force
  | completions shell =>
    (Completion.lines Invocation.grammar shell).forM fun line => Script.say line

namespace Invocation

def loadPreferences (inv : Invocation) (env : Environment) : Job CommandError Preferences :=
  Job.mapError (fun message => .badPreferences message none)
    (Preferences.load env inv.shared.preferences)

/-- Load the preferences and do what the command asks for, within a span for the command if there
is one. -/
def perform (inv : Invocation) (env : Environment) (isTerminal : Bool) (span : Option Trace.Span) :
    Job CommandError Unit := do
  let preferences ← inv.loadPreferences env
  let work := inv.command.execute { env, isTerminal, preferences, shared := inv.shared }
  match span with
  | some span => Job.within span work
  | none => work

/-- The command on its own: only an error is put on record besides what the command tells. -/
def runCommand (inv : Invocation) (env : Environment) (isTerminal : Bool) :
    Script (Except CommandError Unit) := do
  match ← (inv.perform env isTerminal none).run with
  | .ok () => return .ok ()
  | .error e =>
    e.record
    return .error e

/-- A run of the program, with its beginning and its end on record. -/
def run (inv : Invocation) (env : Environment) (isTerminal : Bool) :
    Script (Except CommandError Unit) := do
  note .debug .main "CLI started"
    [("verbose", .nat inv.shared.verbose), ("quiet", .bool inv.shared.quiet),
      ("no_color", .bool inv.shared.noColour)]
  match ← (inv.perform env isTerminal (some ⟨"run", .main, []⟩)).run with
  | .ok () =>
    note .info .main "tierstack completed successfully" []
    return .ok ()
  | .error e =>
    e.record
    return .error e

/-- The events that a run shows. A filter in the environment counts more than the options. -/
def filter (inv : Invocation) (env : Environment) : Trace.Filter :=
  ((env.get? "RUST_LOG").bind Trace.Filter.parse?).getD
    (.ofVerbosity inv.shared.verbose inv.shared.quiet)

end Invocation

end Blueprint
