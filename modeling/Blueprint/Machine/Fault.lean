/-!
What goes wrong with files. A fault of the system has a number, by which it is known, and a
description; any other fault has a description only.
-/

namespace Blueprint

/-- Why something could not be done with a file. -/
inductive Fault where
  | system (number : Nat) (description : String)
  | other (description : String)
  deriving DecidableEq

namespace Fault

def text : Fault → String
  | system number description => s!"{description} (os error {number})"
  | other description => description

/-- A part of the path is not there. -/
def notFound : Fault := system 2 "No such file or directory"

/-- Something is in use and cannot go away. -/
def busy : Fault := system 16 "Device or resource busy"

/-- Something is in the place of what is to be made. -/
def occupied : Fault := system 17 "File exists"

/-- The path leads through a file. -/
def notDirectory : Fault := system 20 "Not a directory"

/-- A directory is where a file is needed. -/
def isDirectory : Fault := system 21 "Is a directory"

/-- The path cannot be used for this. -/
def invalid : Fault := system 22 "Invalid argument"

/-- A name or the whole path is too long. -/
def nameTooLong : Fault := system 36 "File name too long"

/-- A directory still has entries. -/
def notEmpty : Fault := system 39 "Directory not empty"

/-- The faults of the system that are met with files. -/
def known : List Fault :=
  [system 1 "Operation not permitted", notFound, system 5 "Input/output error",
    system 13 "Permission denied", busy, occupied, notDirectory, isDirectory, invalid,
    system 24 "Too many open files", system 27 "File too large",
    system 28 "No space left on device", system 30 "Read-only file system", nameTooLong, notEmpty,
    system 40 "Too many levels of symbolic links"]

/-- The fault of the system with a number. The description counts for a number that is not met
with files. -/
def ofNumber (number : Nat) (description : String) : Fault :=
  (known.find? fun fault => match fault with
    | system n _ => n = number
    | other _ => false).getD (system number description)

/-- The path holds a character that no path may hold. -/
def badName : Fault := other "file name contained an unexpected NUL byte"

/-- The contents of a file are not text. -/
def notText : Fault := other "stream did not contain valid UTF-8"

end Fault

end Blueprint
