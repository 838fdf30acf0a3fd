import Blueprint.Error
import Blueprint.Text.Ascii
import Blueprint.Text.Split

/-!
Regions of the provider. A region that comes from the settings is checked for the form of a region
name; one that is already part of a declaration is taken as it stands.
-/

namespace Blueprint

/-- A region, by its name. -/
structure Region where
  name : String
  deriving DecidableEq

namespace Region

/-- The region in which certificates for the content network must be declared. -/
def cdnHome : Region := ⟨"us-east-1"⟩

/-- A part of a region name: small letters and digits, at least one. -/
def isPart (part : List Char) : Bool :=
  part ≠ [] && part.all fun c => Text.isLower c || Text.isDigit c

/-- The form of a region name: at least three parts between hyphens, the last of them a number. -/
def isName (name : String) : Bool :=
  let parts := Text.splitChars '-' name.toList
  3 ≤ parts.length && parts.all isPart && (parts.getLast?.getD []).all Text.isDigit

def parse (field raw : String) : Except SettingsError Region :=
  if isName raw then .ok ⟨raw⟩
  else .error (.invalid field s!"'{raw}' is not a region name (expected e.g. us-east-1)")

end Region

end Blueprint
