import Blueprint.Error
import Blueprint.Json

/-!
Failures as records. The record of a failure is the code of its cause and the texts that belong to
it, each under a name; a failure can be read back from its record.
-/

namespace Blueprint

def Category.name : Category → String
  | validation => "Validation"
  | notFound => "NotFound"
  | configuration => "Configuration"
  | internal => "Internal"

/-- A code and named texts. -/
structure ErrorRecord where
  code : String
  fields : List (String × String)
  deriving DecidableEq

def SettingsError.record : SettingsError → ErrorRecord
  | missing field => ⟨"MissingRequiredField", [("field", field)]⟩
  | invalid field reason => ⟨"InvalidValue", [("field", field), ("reason", reason)]⟩
  | malformed details => ⟨"Malformed", [("reason", details)]⟩

def ModelError.record : ModelError → ErrorRecord
  | settings error => error.record
  | unsupportedEngine engine => ⟨"UnsupportedEngine", [("engine", engine)]⟩
  | noServedName => ⟨"NoDomainConfigured", []⟩
  | invalidIdentifier value reason =>
    ⟨"InvalidIdentifier", [("value", value), ("reason", reason)]⟩
  | unknownResource topology id => ⟨"UnknownResource", [("topology", topology), ("id", id)]⟩
  | duplicateResource topology id => ⟨"DuplicateResource", [("topology", topology), ("id", id)]⟩
  | duplicateOutput topology id => ⟨"DuplicateOutput", [("topology", topology), ("id", id)]⟩
  | duplicateExport name => ⟨"DuplicateExport", [("name", name)]⟩
  | duplicateTopology name => ⟨"DuplicateTopology", [("name", name)]⟩
  | unresolvedDependency consumer producer =>
    ⟨"UnresolvedDependency", [("consumer", consumer), ("producer", producer)]⟩
  | unmarkedCrossing consumer reference =>
    ⟨"UnmarkedCrossRegionReference", [("consumer", consumer), ("reference", reference)]⟩
  | invalidArtifactPath path => ⟨"InvalidArtifactPath", [("path", path)]⟩
  | duplicateArtifact path => ⟨"DuplicateArtifact", [("path", path)]⟩

def SynthesisError.record : SynthesisError → ErrorRecord
  | sourceFailed source reason => ⟨"SourceFailed", [("name", source), ("reason", reason)]⟩
  | sourceNotFound path => ⟨"SourceNotFound", [("path", path)]⟩
  | renderingFailed reason => ⟨"RenderingFailed", [("reason", reason)]⟩
  | storeFailed path reason => ⟨"SinkError", [("path", path), ("reason", reason)]⟩
  | outputExists path => ⟨"OutputExists", [("path", path)]⟩
  | replaceRefused path reason => ⟨"ReplaceRefused", [("path", path), ("reason", reason)]⟩
  | rollbackFailed path reason => ⟨"RollbackFailed", [("path", path), ("reason", reason)]⟩
  | lockPoisoned => ⟨"LockPoisoned", []⟩

namespace Failure

def record : Failure → ErrorRecord
  | model error => error.record
  | synthesis error => error.record
  | configuration message => ⟨"Configuration", [("message", message)]⟩
  | internal message => ⟨"Internal", [("message", message)]⟩

def ofRecord? (record : ErrorRecord) : Option Failure :=
  let field? (name : String) : Option String := record.fields.lookup name
  let settings (e : SettingsError) : Failure := model (.settings e)
  match record.code with
  | "MissingRequiredField" => return settings (.missing (← field? "field"))
  | "InvalidValue" => return settings (.invalid (← field? "field") (← field? "reason"))
  | "Malformed" => return settings (.malformed (← field? "reason"))
  | "UnsupportedEngine" => return model (.unsupportedEngine (← field? "engine"))
  | "NoDomainConfigured" => some (model .noServedName)
  | "InvalidIdentifier" =>
    return model (.invalidIdentifier (← field? "value") (← field? "reason"))
  | "UnknownResource" => return model (.unknownResource (← field? "topology") (← field? "id"))
  | "DuplicateResource" =>
    return model (.duplicateResource (← field? "topology") (← field? "id"))
  | "DuplicateOutput" => return model (.duplicateOutput (← field? "topology") (← field? "id"))
  | "DuplicateExport" => return model (.duplicateExport (← field? "name"))
  | "DuplicateTopology" => return model (.duplicateTopology (← field? "name"))
  | "UnresolvedDependency" =>
    return model (.unresolvedDependency (← field? "consumer") (← field? "producer"))
  | "UnmarkedCrossRegionReference" =>
    return model (.unmarkedCrossing (← field? "consumer") (← field? "reference"))
  | "InvalidArtifactPath" => return model (.invalidArtifactPath (← field? "path"))
  | "DuplicateArtifact" => return model (.duplicateArtifact (← field? "path"))
  | "SourceFailed" => return synthesis (.sourceFailed (← field? "name") (← field? "reason"))
  | "SourceNotFound" => return synthesis (.sourceNotFound (← field? "path"))
  | "RenderingFailed" => return synthesis (.renderingFailed (← field? "reason"))
  | "SinkError" => return synthesis (.storeFailed (← field? "path") (← field? "reason"))
  | "OutputExists" => return synthesis (.outputExists (← field? "path"))
  | "ReplaceRefused" => return synthesis (.replaceRefused (← field? "path") (← field? "reason"))
  | "RollbackFailed" => return synthesis (.rollbackFailed (← field? "path") (← field? "reason"))
  | "LockPoisoned" => some (synthesis .lockPoisoned)
  | "Configuration" => return configuration (← field? "message")
  | "Internal" => return internal (← field? "message")
  | _ => none

/-- A failure can be read back from its record. -/
theorem ofRecord?_record (f : Failure) : ofRecord? f.record = some f := by
  cases f with
  | model e =>
    cases e with
    | settings e => cases e <;> rfl
    | _ => rfl
  | synthesis e => cases e <;> rfl
  | configuration _ => rfl
  | internal _ => rfl

/-- The JSON form of a failure: code, message, category and suggestions. The message of a document
that cannot be read says no more than the code and is left out. -/
def toJson (f : Failure) : Json :=
  match f with
  | model (.settings (.malformed _)) =>
    Json.object [("error", .str f.record.code), ("category", .str f.category.name)]
  | _ =>
    Json.object
      [("error", .str f.record.code), ("message", .str f.message),
        ("category", .str f.category.name), ("suggestions", .strs f.suggestions)]

end Failure

end Blueprint
