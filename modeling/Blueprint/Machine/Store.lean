import Blueprint.Machine.Script
import Blueprint.Path
import Blueprint.Text.Ascii

/-!
A store of files in memory. Files and directories are known by the parts of their paths, so two
texts for one path lead to the same file; a file is listed under the text it was first written
with. A file can be written only into a directory that is there, or without one.
-/

namespace Blueprint

/-- The beginnings of a list, the shortest first, without the empty one. -/
def beginnings {α : Type} : List α → List (List α)
  | [] => []
  | a :: rest => [a] :: (beginnings rest).map (a :: ·)

structure StoredFile where
  /-- The path as it was first written. -/
  path : String
  content : String

def StoredFile.parts (file : StoredFile) : List Path.Part := Path.parts file.path

/-- Files and directories in memory. -/
structure Store where
  files : List StoredFile
  directories : List (List Path.Part)

namespace Store

/-- The store without files and directories. -/
def empty : Store := ⟨[], []⟩

def file? (s : Store) (parts : List Path.Part) : Option StoredFile :=
  s.files.find? fun file => file.parts = parts

/-- The content of the file at a path. -/
def read? (s : Store) (path : String) : Option String :=
  (s.file? (Path.parts path)).map StoredFile.content

/-- Whether there is a file or a directory at a path. -/
def contains (s : Store) (path : String) : Bool :=
  (s.file? (Path.parts path)).isSome || s.directories.contains (Path.parts path)

/-- The store with a directory and all directories above it. -/
def makeDirs (s : Store) (path : String) : Store :=
  { s with
    directories :=
      s.directories ++
        (beginnings (Path.parts path)).filter fun parts => !s.directories.contains parts }

/-- Whether the directory that a file needs is there. -/
def hasPlaceFor (s : Store) (parts : List Path.Part) : Bool :=
  match Path.parent? parts with
  | none | some [] => true
  | some directory => s.directories.contains directory

/-- The files with one of them written. -/
def put (path content : String) : List StoredFile → List StoredFile
  | [] => [⟨path, content⟩]
  | file :: rest =>
    if file.parts = Path.parts path then { file with content } :: rest
    else file :: put path content rest

/-- The store with a file written. -/
def write (s : Store) (path content : String) : Except Fault Store :=
  if s.hasPlaceFor (Path.parts path) then .ok { s with files := put path content s.files }
  else .error (.other "Parent directory does not exist")

/-- The store without the file or directory at a path and without everything below it. -/
def removeTree (s : Store) (path : String) : Store :=
  { files := s.files.filter fun file => !(Path.parts path).isPrefixOf file.parts
    directories := s.directories.filter fun parts => !(Path.parts path).isPrefixOf parts }

def apply (s : Store) : Change → Except Fault Store
  | .makeDirs path => .ok (s.makeDirs path)
  | .write path content => s.write path content
  | .removeTree path => .ok (s.removeTree path)

/-- The paths of the files, in the order of their parts. -/
def paths (s : Store) : List String :=
  (s.files.mergeSort fun a b => Path.le a.parts b.parts).map StoredFile.path

end Store

end Blueprint
