import Blueprint.Machine.Fault
import Blueprint.Trace

/-!
Scripts: what a job asks of the machine it runs on, one question after the other, where each further
step may depend on the answers so far. A script does nothing by itself; a machine runs it by
answering its questions, be it with real files or with files that are kept in memory.
-/

namespace Blueprint

/-- A change of the files of a machine. -/
inductive Change where
  /-- Make a directory and those above it, as far as they are missing. -/
  | makeDirs (path : String)
  /-- Write a file, in the place of one that is there. -/
  | write (path content : String)
  /-- Remove a directory with everything in it. -/
  | removeTree (path : String)
  deriving DecidableEq

def Change.path : Change → String
  | makeDirs path | write path _ | removeTree path => path

/-- A question that a script asks. -/
inductive Ask where
  /-- Whether there is a file or a directory at a path. -/
  | pathExists (path : String)
  /-- The contents of a file. -/
  | read (path : String)
  /-- Whether a path leads to the working directory or to one above it. -/
  | holdsWorkingDir (path : String)
  | change (change : Change)
  /-- An identifier that was never used before. -/
  | identifier
  /-- The present time. -/
  | time
  /-- Say a line to the user. -/
  | say (line : String)
  /-- Whether the user agrees to something. -/
  | agreement (question : String)
  /-- Put an event on record. -/
  | note (event : Trace.Event)

/-- What a machine answers to a question. -/
abbrev Ask.Answer : Ask → Type
  | pathExists _ | holdsWorkingDir _ => Bool
  | read _ => Except Fault ByteArray
  | change _ => Except Fault Unit
  | agreement _ => Except Fault Bool
  | identifier | time => String
  | say _ | note _ => Unit

/-- A script with a result. -/
inductive Script (α : Type) where
  | done (result : α)
  | ask (question : Ask) (next : question.Answer → Script α)

namespace Script

variable {α β : Type}

/-- One script after another. -/
def bind : Script α → (α → Script β) → Script β
  | done a, f => f a
  | ask question next, f => ask question fun answer => bind (next answer) f

instance : Monad Script where
  pure := done
  bind := bind

theorem bind_done (s : Script α) : s.bind done = s := by
  induction s with
  | done a => rfl
  | ask question next ih => simp [bind, ih]

theorem bind_assoc {γ : Type} (s : Script α) (f : α → Script β) (g : β → Script γ) :
    (s.bind f).bind g = s.bind fun a => (f a).bind g := by
  induction s with
  | done a => rfl
  | ask question next ih => simp [bind, ih]

instance : LawfulMonad Script := LawfulMonad.mk' Script
  (fun s => bind_done s) (fun _ _ => rfl) (fun s f g => bind_assoc s f g)

/-- Run a script on a machine, given by its answers. -/
def runIn {m : Type → Type} [Monad m] (answer : (question : Ask) → m question.Answer) :
    Script α → m α
  | done a => pure a
  | ask question next => do runIn answer (next (← answer question))

/-- Whether there is a file or a directory at a path. -/
def pathExists (path : String) : Script Bool := ask (.pathExists path) done

/-- Read a file. -/
def read (path : String) : Script (Except Fault ByteArray) := ask (.read path) done

/-- Whether a path leads to the working directory or to one above it. -/
def holdsWorkingDir (path : String) : Script Bool := ask (.holdsWorkingDir path) done

/-- Change the files. -/
def change (c : Change) : Script (Except Fault Unit) := ask (.change c) done

/-- An identifier that was never used before. -/
def identifier : Script String := ask .identifier done

/-- The present time. -/
def time : Script String := ask .time done

def say (line : String) : Script Unit := ask (.say line) done

/-- Ask the user to agree to something. -/
def agreement (question : String) : Script (Except Fault Bool) := ask (.agreement question) done

/-- Put an event on record. -/
def note (level : Trace.Level) (origin : Trace.Origin) (message : String)
    (fields : List Trace.Field) : Script Unit :=
  ask (.note ⟨level, origin, message, fields, []⟩) done

def within (span : Trace.Span) : Script α → Script α
  | done a => done a
  | ask (.note event) next =>
    ask (.note (event.within span)) fun answer => within span (next answer)
  | ask question next => ask question fun answer => within span (next answer)

end Script

/-- A script that can fail. -/
abbrev Job (ε α : Type) := ExceptT ε Script α

namespace Job

variable {ε ε' α : Type}

def within (span : Trace.Span) (job : Job ε α) : Job ε α := ExceptT.mk (Script.within span job.run)

/-- The job that ends with a result that is known already. -/
def ofExcept (result : Except ε α) : Job ε α := ExceptT.mk (pure result)

/-- The outcome of a job, in a job that goes on if it fails. -/
def attempt (job : Job ε α) : Job ε' (Except ε α) := ExceptT.mk do return .ok (← job.run)

/-- The job with its error told in another way. -/
def mapError (f : ε → ε') (job : Job ε α) : Job ε' α :=
  ExceptT.mk do return (← job.run).mapError f

end Job

end Blueprint
