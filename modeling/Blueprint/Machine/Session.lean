import Blueprint.Machine.Workspace

/-!
A session: a machine with a workspace, on which one script runs after the other. What the scripts
say and the events they report are kept. Nobody is there to agree to anything.
-/

namespace Blueprint

/-- The machine of a session. -/
structure Session where
  workspace : Workspace
  /-- What has been said, the latest first. -/
  said : List String
  /-- The events, the latest first. -/
  reported : List Trace.Event
  identifier : String
  time : String

namespace Session

def answer : (question : Ask) → Session → question.Answer × Session
  | .pathExists path, s => (s.workspace.contains path, s)
  | .read path, s => (s.workspace.read path, s)
  | .holdsWorkingDir path, s => (s.workspace.holdsWorkingDir path, s)
  | .change c, s =>
    let (result, workspace) := s.workspace.change c
    (result, { s with workspace })
  | .identifier, s => (s.identifier, s)
  | .time, s => (s.time, s)
  | .say line, s => ((), { s with said := line :: s.said })
  | .agreement _, s => (.ok false, s)
  | .note event, s => ((), { s with reported := event :: s.reported })

/-- The answer to a question, as a step of the session. -/
def step (question : Ask) : StateM Session question.Answer := answer question

def run {α : Type} (script : Script α) (s : Session) : α × Session := script.runIn step s

/-- The text that has been said. -/
def output (s : Session) : String := Text.ofLines s.said.reverse

/-- The events, the earliest first. -/
def events (s : Session) : List Trace.Event := s.reported.reverse

/-- The session with nothing said and nothing reported. -/
def renewed (s : Session) : Session := { s with said := [], reported := [] }

end Session

end Blueprint
