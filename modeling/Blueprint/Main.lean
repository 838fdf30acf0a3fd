import Blueprint.Clock
import Blueprint.Command.Run
import Blueprint.CommandLine.Help
import Blueprint.Environment.File
import Blueprint.Identifier
import Std.Time.DateTime.Timestamp

/-!
The program on a real machine. A script is run by answering its questions with the files of the
machine, its clock, its source of random bytes and its terminal; which questions are asked, and what
the answers lead to, is decided by the script.
-/

namespace Blueprint.Host

/-- The fault that an error of the system stands for. -/
def faultOf (e : IO.Error) : Fault :=
  match e with
  | .noFileOrDirectory .. => .notFound
  | .alreadyExists _ number details | .otherError number details | .resourceBusy number details
  | .resourceVanished number details | .unsupportedOperation number details
  | .hardwareFault number details | .unsatisfiedConstraints number details
  | .illegalOperation number details | .protocolError number details | .timeExpired number details
  | .interrupted _ number details | .invalidArgument _ number details
  | .permissionDenied _ number details | .resourceExhausted _ number details
  | .inappropriateType _ number details | .noSuchThing _ number details =>
    .ofNumber number.toNat details
  | .unexpectedEof => .other "unexpected end of file"
  | .userError message => .other message

/-- The result of an action, or the fault with which it fails. -/
def guarded {α : Type} (action : IO α) : IO (Except Fault α) := do
  try return .ok (← action) catch e => return .error (faultOf e)

/-- An action on a path. A path that no file can have is a fault from the start. -/
def onPath {α : Type} (path : String) (action : IO α) : IO (Except Fault α) :=
  if path.contains '\x00' then return .error .badName else guarded action

/-- The parts of the path at which a file is, once all links are followed. -/
def placeOf (path : String) : IO (List Path.Part) := do
  return Path.parts (← IO.FS.realPath path).toString

def holdsDirectory (path : String) : IO Bool := do
  try (← IO.FS.realPath path).isDir catch _ => return false

/-- Make a directory and those above it, as far as they are missing. -/
partial def makeDirs (path : String) : IO Unit := do
  if path.isEmpty then return
  try IO.FS.createDir path
  catch e =>
    match faultOf e, Path.directory? path with
    | .system 2 _, some parent =>
      makeDirs parent
      try IO.FS.createDir path catch e => unless ← holdsDirectory path do throw e
    | _, _ => unless ← holdsDirectory path do throw e

/-- Remove a directory with everything in it. A link to one is removed itself. -/
def removeTree (path : String) : IO Unit := do
  let entry : IO.FS.DirEntry := ⟨path, ""⟩
  if (← entry.root.symlinkMetadata).type matches .symlink then IO.FS.removeFile path
  else IO.FS.removeDirAll path

/-- Do a change. -/
def change (c : Change) : IO (Except Fault Unit) :=
  onPath c.path <|
    match c with
    | .makeDirs path => makeDirs path
    | .write path content => IO.FS.writeFile path content
    | .removeTree path => removeTree path

/-- The present time. -/
def now : IO Instant := do
  let t := (← Std.Time.Timestamp.now).val
  return ⟨t.second.val.toNat, t.nano.val.toNat⟩

/-- The line that puts an event on record. -/
def eventLine (json : Bool) (instant : Instant) (event : Trace.Event) : String :=
  if json then
    match event.toJson with
    | .obj members => (Json.obj (("timestamp", .str instant.stamp) :: members)).compact
    | other => other.compact
  else
    let missing := 5 - event.level.name.length
    instant.stamp ++ " " ++ String.ofList (List.replicate missing ' ') ++ event.text

def record (filter : Trace.Filter) (json : Bool) (event : Trace.Event) : IO Unit := do
  match filter.shown? event with
  | some event => IO.eprintln (eventLine json (← now) event)
  | none => return

/-- Ask the user to agree to something. -/
def askUser (question : String) : IO Bool := do
  IO.eprint s!"{question} [y/N] "
  let answer ← (← IO.getStdin).getLine
  return ["y", "yes"].contains (Text.lower answer.trimAscii.toString)

def answer (filter : Trace.Filter) (json : Bool) : (question : Ask) → IO question.Answer
  | .pathExists path => return (← onPath path (IO.FS.realPath path)).toBool
  | .read path => onPath path (IO.FS.readBinFile path)
  | .holdsWorkingDir path => do
    let holds := do return (← placeOf path).isPrefixOf (Path.parts (← IO.currentDir).toString)
    return ((← onPath path holds).toOption).getD false
  | .change c => change c
  | .identifier => return Identifier.ofBytes (← IO.getRandomBytes 16).data.toList
  | .time => return (← now).text
  | .say line => IO.println line
  | .agreement question => guarded (askUser question)
  | .note event => record filter json event

def run {α : Type} (filter : Trace.Filter) (json : Bool) (script : Script α) : IO α :=
  script.runIn (answer filter json)

/-- The environment of the program. -/
def environment : IO Environment := do
  try return .ofBlock (← IO.FS.readBinFile "/proc/self/environ") catch _ => return ⟨[]⟩

/-- Tell what a command line that leads to no command asks for, with the exit status. -/
def answerDetour : CommandLine.Detour → IO UInt32
  | .usage => do
    IO.eprintln Invocation.grammar.refusal
    return 2
  | .help => do
    IO.println Invocation.grammar.helpText
    return 0
  | .version => do
    IO.println s!"{Invocation.grammar.program} {toolVersion}"
    return 0

/-- Do what a command line asks for, and report the error if there is one. -/
def perform (env : Environment) (inv : Invocation) : IO UInt32 := do
  let isTerminal ← (← IO.getStdout).isTty
  let script := inv.run env isTerminal
  match ← run (inv.filter env) (inv.shared.format = .json) script with
  | .ok () => return 0
  | .error e =>
    let report := if ← (← IO.getStderr).isTty then e.colouredReport else e.report
    IO.eprint (report (Preferences.defaultFile env) (0 < inv.shared.verbose))
    return e.exitStatus.toUInt32

/-- The program with its arguments. -/
def start (arguments : List String) : IO UInt32 := do
  let env ← run ⟨[]⟩ false (EnvironmentFile.load (← environment))
  match Invocation.parse env arguments with
  | .ok inv => perform env inv
  | .error detour => answerDetour detour

end Blueprint.Host

/-- The program. -/
def main (arguments : List String) : IO UInt32 := Blueprint.Host.start arguments
