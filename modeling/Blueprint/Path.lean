import Blueprint.Text.Split

/-!
Paths of files, written with slashes. What a path means are its parts: doubled slashes, a slash at
the end and a dot between two slashes add none. A dot at the beginning of a relative path is a part,
since it tells the path from the empty one. Two paths are the same when their parts are; the text
is kept for display.
-/

namespace Blueprint.Path

open Text

inductive Part where
  /-- The slash at the beginning of an absolute path. -/
  | root
  /-- The dot at the beginning of a relative path. -/
  | here
  /-- Two dots, the directory above. -/
  | up
  /-- The name of a file or directory. -/
  | name (s : String)
  deriving DecidableEq

/-- The part that stands between two slashes, none for nothing and for a dot. -/
def segment? (cs : List Char) : Option Part :=
  if cs = [] ∨ cs = ['.'] then none
  else if cs = ['.', '.'] then some .up
  else some (.name (String.ofList cs))

/-- What stands at the beginning of a path apart from its segments. -/
def opening (cs : List Char) : List Part :=
  match cs with
  | '/' :: _ => [.root]
  | ['.'] => [.here]
  | '.' :: '/' :: _ => [.here]
  | _ => []

/-- The parts of a path given by its characters. -/
def partsOfChars (cs : List Char) : List Part :=
  opening cs ++ (splitChars '/' cs).filterMap segment?

def parts (path : String) : List Part := partsOfChars path.toList

/-- Whether a path starts at the root. -/
def isAbsolute (path : String) : Bool := path.toList.head? = some '/'

/-- A path below another one. An absolute path stays as it is. -/
def join (base path : String) : String :=
  if isAbsolute path then path
  else if base.toList = [] then path
  else if base.toList.getLast? = some '/' then base ++ path
  else base ++ "/" ++ path

/-- The parts of the directory that holds a path; none for the root and the empty path. -/
def parent? (path : List Part) : Option (List Part) :=
  match path.getLast? with
  | none | some .root => none
  | some _ => some path.dropLast

/-- A reversed path without what adds no part at its end. -/
def trimEnd : List Char → List Char
  | ['/'] => ['/']
  | '/' :: rest => trimEnd rest
  | '.' :: '/' :: rest => trimEnd ('/' :: rest)
  | cs => cs

/-- The text of the directory that holds a path, which is empty for a path of one part. -/
def directory? (path : String) : Option String :=
  (parent? (parts path)).map fun _ =>
    let rest := (trimEnd path.toList.reverse).dropWhile (· ≠ '/')
    String.ofList (trimEnd rest).reverse

/-- The name of the file or directory that a path leads to. A path that ends in two dots, a lone
dot, the root and the empty path name none. -/
def fileName? (path : String) : Option String :=
  match (parts path).getLast? with
  | some (.name s) => some s
  | _ => none

/-- What follows the last dot of a file name. A dot at the very beginning starts no extension. -/
def extension? (path : String) : Option String :=
  match fileName? path with
  | none => none
  | some file =>
    match cutChars '.' file.toList.reverse with
    | some (_, []) | none => none
    | some (ending, _) => some (String.ofList ending.reverse)

def hasName (path : List Part) : Bool :=
  path.any fun part => match part with
    | .name _ => true
    | _ => false

/-- Whether every part of a path is a name or the dot at its beginning. -/
def staysInside (path : List Part) : Bool :=
  path.all fun part => match part with
    | .name _ | .here => true
    | _ => false

/-- The place of a part among others that may stand where it does: the root first, names last and
in the order of their texts. -/
def Part.le : Part → Part → Bool
  | .root, _ => true
  | _, .root => false
  | .here, _ => true
  | _, .here => false
  | .up, _ => true
  | _, .up => false
  | .name a, .name b => !(b < a)

/-- The order of paths, part by part. -/
def le : List Part → List Part → Bool
  | [], _ => true
  | _ :: _, [] => false
  | a :: as, b :: bs => if a = b then le as bs else a.le b

end Blueprint.Path
