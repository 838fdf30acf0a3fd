import Blueprint.Error
import Blueprint.Text.Ascii
import Blueprint.Text.Blank
import Blueprint.Text.Split

/-!
The names that settings may contain: the prefix of a deployment, identifiers of a database, names
of the domain name system and image tags. Lengths are counted in bytes.
-/

namespace Blueprint.Naming

open Text

/-- A letter, then characters of a class. -/
def isLetterThen (allowed : Char → Bool) : List Char → Bool
  | [] => false
  | c :: rest => isLetter c && rest.all allowed

/-- The prefix of a deployment: a letter, then letters and digits. -/
def isDeploymentPrefix (name : String) : Bool := isLetterThen isAlnum name.toList

/-- An identifier: a letter, then letters, digits and one further character, at most 63 in all. -/
def isIdentifier (extra : Char) (name : String) : Bool :=
  isLetterThen (fun c => isAlnum c || c = extra) name.toList && byteCount name ≤ 63

/-- A label of a domain name: up to 63 letters, digits and hyphens, no hyphen at either end. -/
def isDnsLabel (label : List Char) : Bool :=
  label ≠ [] && charsByteCount label ≤ 63 && label.head? ≠ some '-' &&
    label.getLast? ≠ some '-' && label.all fun c => isAlnum c || c = '-'

/-- A domain name of at least so many labels and at most 253 characters. -/
def isDnsName (minLabels : Nat) (name : String) : Bool :=
  let labels := splitChars '.' name.toList
  minLabels ≤ labels.length && byteCount name ≤ 253 && labels.all isDnsLabel

/-- The tag of an image: one to 128 bytes and nothing blank. -/
def isImageTag (tag : String) : Bool :=
  tag ≠ "" && byteCount tag ≤ 128 && !tag.toList.any isBlank

def checkDeploymentPrefix (name : String) : Except SettingsError Unit :=
  if isDeploymentPrefix name then .ok ()
  else
    .error (.invalid "namePrefix"
      s!"'{name}' must start with a letter and contain only letters and digits")

def checkIdentifier (field : String) (extra : Char) (name : String) : Except SettingsError Unit :=
  if isIdentifier extra name then .ok ()
  else
    .error (.invalid field
      s!"'{name}' must start with a letter and contain only letters, digits or '{extra}'")

def checkDnsName (field : String) (minLabels : Nat) (name : String) : Except SettingsError Unit :=
  if isDnsName minLabels name then .ok ()
  else .error (.invalid field s!"'{name}' is not a valid DNS name")

def checkImageTag (tag : String) : Except SettingsError Unit :=
  if isImageTag tag then .ok ()
  else .error (.invalid "ecrRepositoryTag" s!"'{tag}' is not a valid image tag")

end Blueprint.Naming
