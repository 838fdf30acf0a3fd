import Blueprint.Machine.Store

/-!
A trial of a script: a machine whose files are a store in memory, on which any change may be made to
fail. A change that fails leaves the store as it was. Everything that the script asks for is kept on
record.
-/

namespace Blueprint

/-- The machine of a trial. -/
structure Trial where
  store : Store
  /-- What the script has asked for, the latest first. -/
  asked : List Ask
  /-- The fault of a change, none if it is let through, by what was asked for before it. -/
  refusal : List Ask → Change → Option Fault
  /-- Whether a path leads to the working directory or to one above it. -/
  holdsWorkingDir : String → Bool
  identifier : String
  time : String

namespace Trial

/-- The effect of a change. -/
def change (trial : Trial) (c : Change) : Except Fault Unit × Trial :=
  match trial.refusal trial.asked c with
  | some fault => (.error fault, trial)
  | none =>
    match trial.store.apply c with
    | .error fault => (.error fault, trial)
    | .ok store => (.ok (), { trial with store })

/-- The contents of a file. -/
def read (trial : Trial) (path : String) : Except Fault ByteArray :=
  match trial.store.read? path with
  | some content => .ok content.toUTF8
  | none => .error .notFound

def answer : (question : Ask) → Trial → question.Answer × Trial
  | .pathExists path, trial => (trial.store.contains path, trial)
  | .read path, trial => (trial.read path, trial)
  | .holdsWorkingDir path, trial => (trial.holdsWorkingDir path, trial)
  | .change c, trial => trial.change c
  | .identifier, trial => (trial.identifier, trial)
  | .time, trial => (trial.time, trial)
  | .say _, trial => ((), trial)
  | .agreement _, trial => (.ok false, trial)
  | .note _, trial => ((), trial)

/-- The answer to a question, with the question on record. -/
def step (question : Ask) : StateM Trial question.Answer := fun trial =>
  let (a, trial) := answer question trial
  (a, { trial with asked := question :: trial.asked })

def run {α : Type} (script : Script α) (trial : Trial) : α × Trial := script.runIn step trial

/-- The events on record, the earliest first. -/
def events (trial : Trial) : List Trace.Event :=
  trial.asked.reverse.filterMap fun question =>
    match question with
    | .note event => some event
    | _ => none

def changeKind : Change → String
  | .makeDirs _ => "mkdir"
  | .write .. => "write"
  | .removeTree _ => "remove"

/-- The question about a change, if it is one of a kind. -/
def isChange (kind : String) : Ask → Bool
  | .change c => changeKind c = kind
  | _ => false

/-- The refusal that lets only so many changes of each kind through, where a limit is given. -/
def refuseAfter (limit? : String → Option Nat) (asked : List Ask) (c : Change) : Option Fault := do
  let limit ← limit? (changeKind c)
  if (asked.filter (isChange (changeKind c))).length < limit then none
  else some (.other s!"injected {changeKind c} failure")

/-- The line that tells of a question about files, none for other questions and for reading. -/
def line? : Ask → Option String
  | .pathExists path => some s!"exists {path}"
  | .change (.write path content) => some s!"write {path} {Text.byteCount content}"
  | .change c => some s!"{changeKind c} {c.path}"
  | _ => none

/-- The lines that tell of what the script has asked for, the earliest first. -/
def lines (trial : Trial) : List String := trial.asked.reverse.filterMap line?

end Trial

end Blueprint
