import Blueprint.Machine.Script
import Blueprint.Settings.Format
import Blueprint.Text.Blank

/-!
Where a settings document comes from: a document that is there already, or a file. A source that
names no region can be given one to fall back on.
-/

namespace Blueprint

/-- A source of settings documents. -/
structure Source where
  /-- What the source is called in accounts of a run. -/
  description : String
  load : Job Failure Document

namespace Source

/-- The source that hands out a document. -/
def fixed (document : Document) : Source := ⟨"in-memory configuration", pure document⟩

/-- The text of a settings file. -/
def readText (path : String) : Job Failure String := do
  match ← Script.read path with
  | .error fault =>
    if fault = .notFound then throw (.synthesis (.sourceNotFound path))
    else throw (.synthesis (.sourceFailed path fault.text))
  | .ok bytes =>
    match String.fromUTF8? bytes with
    | some text => return text
    | none => throw (.synthesis (.sourceFailed path Fault.notText.text))

/-- The document in the file at a path. The format goes by the ending of the path. -/
def loadFile (path : String) : Job Failure Document :=
  Job.within ⟨"load", .source, [("path", .bare path)]⟩ do
    let text ← readText path
    let format := Format.ofPath path
    Script.note .debug .source "Parsing configuration"
      [("format", .bare format.name), ("bytes", .nat (Text.byteCount text))]
    Job.mapError (fun e => .model (.settings e)) (.ofExcept (format.parse text))

/-- The source that reads the file at a path each time. -/
def file (path : String) : Source := ⟨path, loadFile path⟩

/-- The document with a region, where it names none. -/
def withRegion (region : Option String) (document : Document) : Document :=
  { document with region := document.region <|> region }

/-- The source with a region for documents that name none. -/
def orRegion (source : Source) (region : Option String) : Source :=
  { source with load := withRegion region <$> source.load }

/-- The variables of the environment that name a region, the first one ahead of the other. -/
def regionVariables : List String := ["AWS_REGION", "AWS_DEFAULT_REGION"]

/-- The region to fall back on: the one asked for, else one from the environment that is not
blank, else the one from the preferences. -/
def fallbackRegion (asked preferred : Option String) (valueOf? : String → Option String) :
    Option String :=
  asked <|>
    (regionVariables.findSome? fun name =>
      (valueOf? name).filter fun value => Text.trim value ≠ "") <|>
    preferred

end Source

end Blueprint
