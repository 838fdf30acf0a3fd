import Blueprint.Error
import Blueprint.Json.Reader
import Blueprint.Path
import Blueprint.Settings.Document
import Blueprint.Toml.Reader

/-!
The formats in which a settings document may be written. The ending of the file name tells them
apart: `toml` in letters of any case is TOML, everything else is JSON.
-/

namespace Blueprint

/-- A format of settings documents. -/
inductive Format where
  | json
  | toml
  deriving DecidableEq

namespace Format

def name : Format → String
  | json => "Json"
  | toml => "Toml"

def ofPath (path : String) : Format :=
  match Path.extension? path with
  | some ending => if Text.lower ending = "toml" then toml else json
  | none => json

def document? (format : Format) (text : String) : Option Document :=
  match format with
  | json => (Json.parse? text).bind Document.ofJson?
  | toml => (Toml.parse? text).bind Document.ofJson?

/-- Read a document. -/
def parse (format : Format) (text : String) : Except SettingsError Document :=
  match format.document? text with
  | some document => .ok document
  | none => .error (.malformed s!"the text is not a settings document in {format.name} format")

end Format

end Blueprint
