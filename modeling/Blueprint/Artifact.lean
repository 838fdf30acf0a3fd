import Blueprint.Error
import Blueprint.Path
import Blueprint.Text.Ascii

/-!
Artifacts: the files of a rendered assembly. The path of an artifact is relative and cannot lead out
of the directory into which it is written. A set of artifacts may be written when no path stands in
it twice.
-/

namespace Blueprint

/-- The rule for paths of artifacts: not empty, and made of names and a dot at the beginning. -/
def IsRelativePath (text : String) : Prop :=
  text ≠ "" ∧ Path.staysInside (Path.parts text) = true

instance (text : String) : Decidable (IsRelativePath text) :=
  inferInstanceAs (Decidable (_ ∧ _))

/-- A path that stays inside the directory that it starts from. -/
structure RelativePath where
  text : String
  isRelativePath : IsRelativePath text
  deriving DecidableEq

namespace RelativePath

def ofString (text : String) : Except ModelError RelativePath :=
  if h : IsRelativePath text then .ok ⟨text, h⟩ else .error (.invalidArtifactPath text)

def parts (path : RelativePath) : List Path.Part := Path.parts path.text

end RelativePath

/-- A file of a rendered assembly. -/
structure Artifact where
  path : RelativePath
  content : String

/-- Files of a rendered assembly, in the order in which they were rendered. -/
structure ArtifactSet where
  artifacts : List Artifact

namespace ArtifactSet

/-- The set without files. -/
def empty : ArtifactSet := ⟨[]⟩

/-- The set with one more file. -/
def add (set : ArtifactSet) (path : RelativePath) (content : String) : ArtifactSet :=
  ⟨set.artifacts ++ [⟨path, content⟩]⟩

/-- The first file whose path is written like a text. -/
def get? (set : ArtifactSet) (path : String) : Option Artifact :=
  set.artifacts.find? fun artifact => artifact.path.text = path

/-- The number of files. -/
def size (set : ArtifactSet) : Nat := set.artifacts.length

/-- The number of bytes in all files. -/
def byteCount (set : ArtifactSet) : Nat :=
  Text.total (set.artifacts.map fun artifact => Text.byteCount artifact.content)

/-- The first file whose path stands before it already. -/
def firstRepeated? (seen : List (List Path.Part)) : List Artifact → Option Artifact
  | [] => none
  | artifact :: rest =>
    if artifact.path.parts ∈ seen then some artifact
    else firstRepeated? (artifact.path.parts :: seen) rest

/-- Check that no path stands in the set twice. -/
def validate (set : ArtifactSet) : Except ModelError Unit :=
  match firstRepeated? [] set.artifacts with
  | some artifact => .error (.duplicateArtifact artifact.path.text)
  | none => .ok ()

end ArtifactSet

end Blueprint
