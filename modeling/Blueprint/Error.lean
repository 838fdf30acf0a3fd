/-!
What can go wrong, by cause, and how it is told. A settings document can be incomplete or wrong, a
declaration can break a rule of the deployment model, and a synthesis can fail at its surroundings.
Each cause has one message, one category and one list of suggestions; the category decides how a
command ends.
-/

namespace Blueprint

/-- The kind of a failure, as a reader of the report sees it. -/
inductive Category where
  /-- The input or the situation breaks a rule. -/
  | validation
  /-- Something that was named is not there. -/
  | notFound
  /-- The configuration needs a change. -/
  | configuration
  /-- Nothing that the user wrote is at fault. -/
  | internal
  deriving DecidableEq, Repr

/-- A settings document that cannot be used. -/
inductive SettingsError where
  | missing (field : String)
  | invalid (field reason : String)
  | malformed (details : String)
  deriving DecidableEq

/-- A broken rule of the settings or of the deployment model. -/
inductive ModelError where
  | settings (error : SettingsError)
  | unsupportedEngine (engine : String)
  | noServedName
  | invalidIdentifier (value reason : String)
  | unknownResource (topology id : String)
  | duplicateResource (topology id : String)
  | duplicateOutput (topology id : String)
  | duplicateExport (name : String)
  | duplicateTopology (name : String)
  | unresolvedDependency (consumer producer : String)
  | unmarkedCrossing (consumer reference : String)
  | invalidArtifactPath (path : String)
  | duplicateArtifact (path : String)
  deriving DecidableEq

/-- A synthesis that fails at its source, its renderer or its output directory. -/
inductive SynthesisError where
  | sourceFailed (source reason : String)
  | sourceNotFound (path : String)
  | renderingFailed (reason : String)
  | storeFailed (path reason : String)
  | outputExists (path : String)
  | replaceRefused (path reason : String)
  | rollbackFailed (path reason : String)
  | lockPoisoned
  deriving DecidableEq

/-- Any failure of the library. -/
inductive Failure where
  | model (error : ModelError)
  | synthesis (error : SynthesisError)
  | configuration (message : String)
  | internal (message : String)
  deriving DecidableEq

/-- The file that lists the contents of a rendered assembly. -/
def manifestFile : String := "manifest.json"

namespace SettingsError

def message : SettingsError → String
  | missing field => s!"required configuration key missing: {field}"
  | invalid field reason => s!"invalid value for '{field}': {reason}"
  | malformed details => s!"configuration document could not be parsed: {details}"

/-- What to do about a settings error. -/
def suggestions : SettingsError → List String
  | missing field =>
    [s!"Add '{field}' to your stack configuration",
      "Required keys: namePrefix, dnsDomain, dbEngine"]
  | invalid field reason =>
    [s!"Fix the value of '{field}': {reason}",
      "Run: tierstack validate to check the configuration"]
  | malformed details =>
    ["The configuration file is not valid JSON or TOML", s!"Details: {details}"]

end SettingsError

namespace ModelError

def message : ModelError → String
  | settings error => error.message
  | unsupportedEngine engine =>
    s!"unsupported database engine '{engine}' (expected mysql or postgresql)"
  | noServedName =>
    "certificate requested but neither dnsDomainHost nor dnsDomainEnableRoot is set"
  | invalidIdentifier value reason => s!"invalid resource identifier '{value}': {reason}"
  | unknownResource topology id =>
    s!"topology '{topology}' references undeclared resource '{id}'"
  | duplicateResource topology id => s!"duplicate resource '{id}' in topology '{topology}'"
  | duplicateOutput topology id => s!"duplicate output '{id}' in topology '{topology}'"
  | duplicateExport name => s!"duplicate output export name '{name}'"
  | duplicateTopology name => s!"duplicate topology name '{name}'"
  | unresolvedDependency consumer producer =>
    s!"topology '{consumer}' references '{producer}', which is not declared before it"
  | unmarkedCrossing consumer reference =>
    s!"topology '{consumer}' uses {reference} across regions without marking it"
  | invalidArtifactPath path =>
    s!"artifact path '{path}' must be relative and stay inside the output directory"
  | duplicateArtifact path => s!"artifact '{path}' is produced twice"

/-- What to do about a model error. -/
def suggestions : ModelError → List String
  | settings error => error.suggestions
  | unsupportedEngine engine =>
    [s!"'{engine}' is not a supported engine", "Set dbEngine to one of:",
      "  • mysql      - Aurora MySQL", "  • postgresql - Aurora PostgreSQL"]
  | noServedName =>
    ["Set dnsDomainHost (e.g. \"www\") to serve www.<dnsDomain>",
      "Or set dnsDomainEnableRoot to true to serve <dnsDomain>"]
  | duplicateExport name =>
    [s!"Export '{name}' is declared twice in this deployment",
      "Export names must be unique across all topologies"]
  | _ => ["This usually indicates a bug in topology wiring"]

/-- Whether the error is one of the configuration, and not of a declaration. -/
def isConfiguration : ModelError → Bool
  | settings _ | unsupportedEngine _ | noServedName => true
  | _ => false

def category : ModelError → Category
  | settings _ | unsupportedEngine _ | noServedName => .configuration
  | invalidIdentifier .. | invalidArtifactPath _ | duplicateArtifact _ => .validation
  | _ => .internal

end ModelError

namespace SynthesisError

def message : SynthesisError → String
  | sourceFailed source reason => s!"Could not read configuration from {source}: {reason}"
  | sourceNotFound path => s!"Configuration not found at {path}"
  | renderingFailed reason => s!"Rendering failed: {reason}"
  | storeFailed path reason => s!"Artifact sink error at {path}: {reason}"
  | outputExists path => s!"Output already exists at {path}"
  | replaceRefused path reason => s!"Refusing to replace {path}: {reason}"
  | rollbackFailed path reason => s!"Rollback failed for {path}: {reason}"
  | lockPoisoned => "Adapter state lock poisoned"

/-- What to do about a synthesis error. -/
def suggestions : SynthesisError → List String
  | sourceFailed source _ =>
    [s!"Check that {source} is readable", "JSON and TOML documents are accepted"]
  | sourceNotFound path =>
    [s!"No configuration at: {path}", "Create one with: tierstack init",
      "Or point at another file with --stack-config"]
  | storeFailed path _ =>
    [s!"Failed to write: {path}", "Check that you have write permissions"]
  | outputExists path =>
    [s!"Directory already exists: {path}", "Use --force to replace it (destructive)",
      "Or choose another directory with --out"]
  | replaceRefused .. =>
    [s!"Only a directory holding a previous {manifestFile} is replaced",
      "Choose a dedicated output directory with --out"]
  | lockPoisoned => ["Try again; a previous write panicked"]
  | _ => ["Check the error details above"]

def category : SynthesisError → Category
  | sourceNotFound _ => .notFound
  | sourceFailed .. => .configuration
  | outputExists _ | replaceRefused .. => .validation
  | _ => .internal

end SynthesisError

namespace Failure

/-- The text of a failure, with its layer in front. -/
def message : Failure → String
  | model error => s!"Domain error: {error.message}"
  | synthesis error => s!"Application error: {error.message}"
  | configuration message => s!"Configuration error: {message}"
  | internal message => s!"Internal error: {message}. This is a bug, please report it."

/-- What to do about a failure. -/
def suggestions : Failure → List String
  | model error => error.suggestions
  | synthesis error => error.suggestions
  | configuration message =>
    [s!"Configuration issue: {message}", "Check your setup and try again"]
  | internal _ =>
    ["This appears to be a bug in tierstack",
      "Please report this issue at: https://github.com/cosecruz/tierstack/issues"]

def category : Failure → Category
  | model error => error.category
  | synthesis error => error.category
  | configuration _ => .configuration
  | internal _ => .internal

/-- Whether a change of the configuration would mend the failure. -/
def isConfiguration : Failure → Bool
  | model error => error.isConfiguration
  | _ => false

/-- The failure that tells in which step another error arose. -/
def inContext (step error : String) : Failure := .internal s!"{step}: {error}"

end Failure

end Blueprint
