import Blueprint.Machine.Script
import Blueprint.Path
import Blueprint.Text.Ascii
import Blueprint.Text.Split

/-!
A tree of files and directories with a working directory. A path is followed name by name: two dots
lead up, one dot stays, and every name but the last must be that of a directory, so a path that ends
in a slash can only be one. Faults are those of a system of this kind, and a change that fails may
have done a part of its work.
-/

namespace Blueprint

/-- Where something is in the tree: the names on the way from the root. -/
abbrev Place := List String

/-- What is at a place. -/
inductive TreeNode where
  | directory
  | file (content : ByteArray)

/-- Files and directories. The root is a directory without an entry. -/
structure Workspace where
  entries : List (Place × TreeNode)
  workingDir : Place

namespace Workspace

def node? (w : Workspace) (place : Place) : Option TreeNode :=
  if place = [] then some .directory else w.entries.lookup place

def isDirectory (w : Workspace) (place : Place) : Bool :=
  match w.node? place with
  | some .directory => true
  | _ => false

def put (w : Workspace) (place : Place) (node : TreeNode) : Workspace :=
  { w with entries := (place, node) :: w.entries.filter fun entry => entry.1 ≠ place }

/-- The tree without what is below a place. -/
def clear (w : Workspace) (place : Place) : Workspace :=
  { w with entries := w.entries.filter fun entry => !(place.isPrefixOf entry.1) || entry.1 = place }

/-- The tree without what is at a place. -/
def erase (w : Workspace) (place : Place) : Workspace :=
  { w with entries := w.entries.filter fun entry => entry.1 ≠ place }

def enter (w : Workspace) (place : Place) (name : String) : Except Fault Place :=
  if !w.isDirectory place then
    .error (if (w.node? place).isSome then .notDirectory else .notFound)
  else if name = "" || name = "." then .ok place
  else if name = ".." then .ok place.dropLast
  else if 255 < Text.byteCount name then .error .nameTooLong
  else if (w.node? (place ++ [name])).isSome then .ok (place ++ [name])
  else .error .notFound

def start (w : Workspace) (path : String) : Place :=
  if Path.isAbsolute path then [] else w.workingDir

/-- Check that a path can be used at all. -/
def checkPath (path : String) : Except Fault Unit :=
  if path.toList.contains '\x00' then .error .badName
  else if path = "" then .error .notFound
  else if 4096 ≤ Text.byteCount path then .error .nameTooLong
  else .ok ()

/-- The place that a path leads to, where there is something. -/
def resolve (w : Workspace) (path : String) : Except Fault Place := do
  checkPath path
  (Text.split '/' path).foldlM w.enter (w.start path)

/-- The place before the last name of a path, that name, and whether a slash follows it. The name of
the root is empty. -/
def resolveParent (w : Workspace) (path : String) : Except Fault (Place × String × Bool) := do
  checkPath path
  let reversed := path.toList.reverse
  let trimmed := (reversed.dropWhile (· = '/')).reverse
  match (Text.splitChars '/' trimmed).reverse with
  | [] => return ([], "", false)
  | last :: before =>
    let names := before.reverse.map String.ofList
    let place ← names.foldlM w.enter (w.start path)
    return (place, String.ofList last, reversed.head? = some '/')

/-- Whether there is something at a path. -/
def contains (w : Workspace) (path : String) : Bool := (w.resolve path).toBool

def hasDirectory (w : Workspace) (path : String) : Bool :=
  match w.resolve path with
  | .ok place => w.isDirectory place
  | .error _ => false

/-- The contents of the file at a path. -/
def read (w : Workspace) (path : String) : Except Fault ByteArray := do
  let place ← w.resolve path
  match w.node? place with
  | some (.file content) => return content
  | some .directory => throw .isDirectory
  | none => throw .notFound

/-- Whether a path leads to the working directory or to one above it. -/
def holdsWorkingDir (w : Workspace) (path : String) : Bool :=
  match w.resolve path with
  | .ok place => w.isDirectory place && place.isPrefixOf w.workingDir
  | .error _ => false

/-- Whether a last name is one that cannot be given to anything. -/
def isFixedName (name : String) : Bool := name = "" || name = "." || name = ".."

def write (w : Workspace) (path : String) (content : ByteArray) : Except Fault Workspace := do
  let (parent, name, slash) ← w.resolveParent path
  if !w.isDirectory parent then throw .notDirectory
  if isFixedName name then throw .isDirectory
  if slash then throw .isDirectory
  if 255 < Text.byteCount name then throw .nameTooLong
  let place := parent ++ [name]
  if w.isDirectory place then throw .isDirectory
  return w.put place (.file content)

/-- Make one directory. -/
def makeDir (w : Workspace) (path : String) : Except Fault Workspace := do
  let (parent, name, _) ← w.resolveParent path
  if !w.isDirectory parent then throw .notDirectory
  if isFixedName name then throw .occupied
  if 255 < Text.byteCount name then throw .nameTooLong
  let place := parent ++ [name]
  if (w.node? place).isSome then throw .occupied
  return w.put place .directory

/-- A path and the paths of the directories above it, the longest first, as far as they can be
made. -/
def ancestry : Nat → String → List String
  | 0, _ => []
  | fuel + 1, path =>
    match Path.directory? path with
    | none => []
    | some above => path :: ancestry fuel above

/-- Make the directories of a list, each below the next one. -/
def makeAll (w : Workspace) : List String → Except Fault Unit × Workspace
  | [] => (.ok (), w)
  | path :: above =>
    match w.makeDir path with
    | .ok made => (.ok (), made)
    | .error fault =>
      if fault = .notFound then
        match w.makeAll above with
        | (.error fault, w) => (.error fault, w)
        | (.ok (), w) =>
          match w.makeDir path with
          | .ok made => (.ok (), made)
          | .error fault =>
            if fault = .occupied && w.hasDirectory path then (.ok (), w) else (.error fault, w)
      else if fault = .occupied && w.hasDirectory path then (.ok (), w)
      else (.error fault, w)

/-- Make a directory and those above it, as far as they are missing. -/
def makeDirs (w : Workspace) (path : String) : Except Fault Unit × Workspace :=
  w.makeAll (ancestry (path.length + 1) path)

/-- Remove an empty directory. It is no fault if it is gone already. -/
def removeDir (w : Workspace) (path : String) : Except Fault Unit × Workspace :=
  match w.resolveParent path with
  | .error fault => (if fault = .notFound then .ok () else .error fault, w)
  | .ok (parent, name, _) =>
    if name = "" then (.error .busy, w)
    else if name = "." then (.error .invalid, w)
    else if name = ".." then (.error .notEmpty, w)
    else (.ok (), w.erase (parent ++ [name]))

/-- Remove a directory with everything in it. -/
def removeTree (w : Workspace) (path : String) : Except Fault Unit × Workspace :=
  match w.resolve path with
  | .error fault => (.error fault, w)
  | .ok place =>
    if w.isDirectory place then (w.clear place).removeDir path else (.error .notDirectory, w)

/-- The effect of a change. -/
def change (w : Workspace) : Change → Except Fault Unit × Workspace
  | .makeDirs path => w.makeDirs path
  | .write path content =>
    match w.write path content.toUTF8 with
    | .ok written => (.ok (), written)
    | .error fault => (.error fault, w)
  | .removeTree path => w.removeTree path

/-- A workspace with an empty working directory. -/
def blank (workingDir : Place) : Workspace :=
  { workingDir
    entries := (List.range workingDir.length).map fun i =>
      (workingDir.take (i + 1), .directory) }

/-- The tree with a file and the directories that it needs; the same tree if it cannot be there. -/
def withFile (w : Workspace) (path : String) (content : ByteArray) : Workspace :=
  let w := (w.makeDirs ((Path.directory? path).getD "")).2
  (w.write path content).toOption.getD w

/-- The order of places, name by name. -/
def placeLe : Place → Place → Bool
  | [], _ => true
  | _ :: _, [] => false
  | a :: as, b :: bs => if a = b then placeLe as bs else a < b

/-- What is below the working directory, in the order of its places. -/
def listing (w : Workspace) : List (Place × TreeNode) :=
  let below := w.entries.filterMap fun (place, node) =>
    if w.workingDir.isPrefixOf place && place ≠ w.workingDir then
      some (place.drop w.workingDir.length, node)
    else none
  below.mergeSort fun a b => placeLe a.1 b.1

end Workspace

end Blueprint
