import Blueprint.CommandLine
import Blueprint.Text.Ascii

/-!
What a command line asks for: one of five commands, and the settings that all commands share.
-/

namespace Blueprint

/-- How results and messages are written. -/
inductive OutputFormat where
  /-- For people on a terminal, plain elsewhere. -/
  | auto
  | human
  | plain
  | json
  deriving DecidableEq

/-- How the outputs of a deployment are listed. -/
inductive ListingFormat where
  | table
  | json
  | csv
  deriving DecidableEq

/-- A shell that can complete command lines. -/
inductive Shell where
  | bash
  | zsh
  | fish
  | powershell
  | elvish
  deriving DecidableEq

/-- What all commands share. -/
structure SharedOptions where
  /-- How often more detail is asked for. -/
  verbose : Nat
  quiet : Bool
  noColour : Bool
  /-- The preferences file. -/
  preferences : Option String
  /-- The settings document. -/
  document : Option String
  region : Option String
  format : OutputFormat
  deriving DecidableEq

/-- A command with its options. -/
inductive Command where
  /-- Render a deployment and write its files. The assent to replacing is for terminals. -/
  | synth (out : Option String) (force assent dryRun : Bool)
  | validate (json : Bool)
  | outputs (exported : Bool) (format : ListingFormat)
  | init (namePrefix : String) (path : Option String) (force : Bool)
  | completions (shell : Shell)
  deriving DecidableEq

/-- What a command line asks for. -/
structure Invocation where
  shared : SharedOptions
  command : Command
  deriving DecidableEq

namespace Invocation

open CommandLine

/-- An option without a value. -/
def flag (name : String) (letter : Option Char) (about : String) : Opt :=
  ⟨name, letter, .flag, none, about⟩

def option (name : String) (kind : ValueKind) (letter : Option Char) (about : String) : Opt :=
  ⟨name, letter, .value kind, none, about⟩

def sharedOptions : List Opt :=
  [⟨"verbose", some 'v', .counter, none, "Increase verbosity (-v, -vv, -vvv)"⟩,
    flag "quiet" (some 'q') "Suppress non-error output",
    ⟨"no-color", none, .flag, some "NO_COLOR", "Disable colored output"⟩,
    option "config" .path (some 'c') "CLI settings file path",
    ⟨"stack-config", some 's', .value .path, some "TIERSTACK_STACK_CONFIG",
      "Stack configuration file (.json or .toml)"⟩,
    option "region" .text none "Deployment region fallback",
    option "output-format" (.choice ["auto", "human", "plain", "json"]) none "Output format"]

def commands : List CommandRule :=
  [⟨"synth", some "s",
      [option "out" .path (some 'o') "Output directory (default: cdk.out)",
        flag "force" none "Replace an existing output directory",
        flag "yes" (some 'y') "Do not ask before replacing",
        flag "dry-run" none "Show what would be written without writing"],
      none, "Synthesize templates"⟩,
    ⟨"validate", some "v", [option "format" (.choice ["text", "json"]) none "Output format"],
      none, "Validate the stack configuration"⟩,
    ⟨"outputs", some "o",
      [flag "exported" none "Only show exported outputs",
        option "format" (.choice ["table", "json", "csv"]) none "Output format"],
      none, "List topology outputs"⟩,
    ⟨"init", none,
      [option "prefix" .text (some 'p') "Name prefix for every topology",
        option "path" .path none "Destination file",
        flag "force" (some 'f') "Overwrite existing file"],
      none, "Create a sample stack configuration"⟩,
    ⟨"completions", none, [],
      some ("shell", .choice ["bash", "zsh", "fish", "powershell", "elvish"]),
      "Generate shell completions"⟩]

/-- The grammar of the program. -/
def grammar : Grammar :=
  { program := "tierstack"
    about := "Compose a multi-tier web stack into deployable cloud templates"
    options := sharedOptions
    exclusive := [("quiet", "verbose")]
    commands }

/-- Whether the value of a variable switches something on. -/
def isOn (value : String) : Bool :=
  Text.lower value ∉ ["", "n", "no", "f", "false", "off", "0"]

def outputFormat : Option String → OutputFormat
  | some "human" => .human
  | some "plain" => .plain
  | some "json" => .json
  | _ => .auto

def listingFormat : Option String → ListingFormat
  | some "json" => .json
  | some "csv" => .csv
  | _ => .table

/-- The shell of a word. -/
def shell : Option String → Shell
  | some "zsh" => .zsh
  | some "fish" => .fish
  | some "powershell" => .powershell
  | some "elvish" => .elvish
  | _ => .bash

/-- The shared options of a command line. -/
def sharedOf (env : Environment) (r : Reading) : SharedOptions :=
  { verbose := min (r.count "verbose") 255
    quiet := r.has "quiet"
    noColour := r.has "no-color" || ((env.get? "NO_COLOR").map isOn).getD false
    preferences := r.value? "config"
    document := r.value? "stack-config" <|> env.get? "TIERSTACK_STACK_CONFIG"
    region := r.value? "region"
    format := outputFormat (r.value? "output-format") }

def commandOf (r : Reading) : Option Command :=
  match r.command.name with
  | "synth" => some (.synth (r.value? "out") (r.has "force") (r.has "yes") (r.has "dry-run"))
  | "validate" => some (.validate (r.value? "format" = some "json"))
  | "outputs" => some (.outputs (r.has "exported") (listingFormat (r.value? "format")))
  | "init" => some (.init ((r.value? "prefix").getD "Acme") (r.value? "path") (r.has "force"))
  | "completions" => some (.completions (shell (r.value? "shell")))
  | _ => none

/-- What a command line asks for. -/
def parse (env : Environment) (words : List String) : Except Detour Invocation := do
  let r ← grammar.read env words
  match commandOf r with
  | some command => return ⟨sharedOf env r, command⟩
  | none => .error .usage

end Invocation

end Blueprint
