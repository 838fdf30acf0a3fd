import Blueprint.Environment

/-!
Command lines. A grammar gives the options of a program and its commands with their own options, as
data. A command line is read level by level: first what stands before the command, then what follows
it. The options of the program may stand on either level; where both have one, the deeper level
counts.
-/

namespace Blueprint.CommandLine

/-- What the value of an option may be. -/
inductive ValueKind where
  | text
  /-- A text that is not empty. -/
  | path
  | choice (words : List String)
  deriving DecidableEq

def ValueKind.accepts : ValueKind → String → Bool
  | text, _ => true
  | path, s => s ≠ ""
  | choice words, s => words.contains s

/-- How an option is used. -/
inductive Usage where
  /-- Alone, and at most once on a level. -/
  | flag
  /-- Alone, and as often as one likes. -/
  | counter
  /-- With a value, and at most once on a level. -/
  | value (kind : ValueKind)
  deriving DecidableEq

/-- An option of a program or a command. -/
structure Opt where
  /-- The name, written after two dashes. -/
  name : String
  /-- The letter, written after one dash. -/
  letter : Option Char
  usage : Usage
  /-- The variable of the environment that stands in for the option. -/
  variableName : Option String
  /-- What the option does. -/
  about : String

/-- A command of a program. -/
structure CommandRule where
  name : String
  /-- A shorter name. -/
  shortName? : Option String
  options : List Opt
  /-- What the command takes besides options, under a name. -/
  operand : Option (String × ValueKind)
  /-- What the command does. -/
  about : String

/-- The grammar of a program. -/
structure Grammar where
  program : String
  /-- What the program does. -/
  about : String
  options : List Opt
  /-- Two options of which only one may stand on a level. -/
  exclusive : List (String × String)
  commands : List CommandRule

inductive Detour where
  /-- The command line is not accepted. -/
  | usage
  | help
  | version
  deriving DecidableEq

/-- What has been read of one level. -/
structure Level where
  /-- Options and operands with their values. Options that take none have an empty one. -/
  given : List (String × String)
  /-- The option or operand that was read last, whose value is still to come or to be checked. -/
  pending : Option (String × ValueKind × Option String)

namespace Level

/-- The level on which nothing has been read. -/
def empty : Level := ⟨[], none⟩

/-- Take in an option that takes a value, or an operand. -/
def take (level : Level) (name : String) (kind : ValueKind) (value : String) :
    Except Detour Level :=
  if (level.given.lookup name).isNone && kind.accepts value then
    .ok ⟨level.given ++ [(name, value)], none⟩
  else .error .usage

/-- Take in what is pending. -/
def settle (level : Level) : Except Detour Level :=
  match level.pending with
  | none => .ok level
  | some (_, _, none) => .error .usage
  | some (name, kind, some value) => level.take name kind value

/-- Whether the next word is a value. -/
def isWaiting (level : Level) : Bool :=
  match level.pending with
  | some (_, _, none) => true
  | _ => false

/-- Take in an option that takes no value. -/
def mark (level : Level) (opt : Opt) : Except Detour Level := do
  let level ← level.settle
  if opt.usage = .flag && (level.given.lookup opt.name).isSome then .error .usage
  else .ok { level with given := level.given ++ [(opt.name, "")] }

/-- Take in an option whose value is given along with it, or will follow. -/
def expect (level : Level) (name : String) (kind : ValueKind) (value : Option String) :
    Except Detour Level := do
  let level ← level.settle
  match value with
  | some value => level.take name kind value
  | none => .ok { level with pending := some (name, kind, none) }

end Level

/-- The rules of a level: its options, whether it is the outermost one, and its operand. -/
structure Scheme where
  options : List Opt
  isOuter : Bool
  operand : Option (String × ValueKind)

namespace Scheme

/-- Read an option after two dashes. A value may follow an equals sign. -/
def readLong (scheme : Scheme) (level : Level) (name : String) (value : Option String) :
    Except Detour Level :=
  match scheme.options.find? fun opt => opt.name = name with
  | some opt =>
    match opt.usage, value with
    | .value kind, _ => level.expect name kind value
    | _, none => level.mark opt
    | _, some _ => .error .usage
  | none =>
    if value.isSome then .error .usage
    else if name = "help" then do
      let _ ← level.settle
      .error .help
    else if name = "version" && scheme.isOuter then do
      let _ ← level.settle
      .error .version
    else .error .usage

/-- Read letters after one dash. The value of an option may follow its letter, with or without an
equals sign between them. -/
def readLetters (scheme : Scheme) (level : Level) : List Char → Except Detour Level
  | [] => .ok level
  | letter :: rest =>
    match scheme.options.find? fun opt => opt.letter = some letter with
    | some opt =>
      match opt.usage, rest with
      | .value kind, [] => level.expect opt.name kind none
      | .value kind, '=' :: value => level.expect opt.name kind (some (String.ofList value))
      | .value kind, value => level.expect opt.name kind (some (String.ofList value))
      | _, rest => do scheme.readLetters (← level.mark opt) rest
    | none =>
      if letter = 'h' then do
        let _ ← level.settle
        .error .help
      else if letter = 'V' && scheme.isOuter then do
        let _ ← level.settle
        .error .version
      else .error .usage

def readOperand (scheme : Scheme) (level : Level) (word : String) : Except Detour Level :=
  match scheme.operand with
  | none => .error .usage
  | some (name, kind) => do
    let level ← level.settle
    if (level.given.lookup name).isSome then .error .usage
    else .ok { level with pending := some (name, kind, some word) }

/-- The name and the value in what follows two dashes. -/
def splitLong (cs : List Char) : String × Option String :=
  let name := cs.takeWhile (· ≠ '=')
  (String.ofList name, ((cs.drop name.length).head?.map fun _ =>
    String.ofList (cs.drop (name.length + 1))))

/-- Read a word that is not the name of a command and not the two dashes that end all options. -/
def readWord (scheme : Scheme) (level : Level) (word : String) : Except Detour Level :=
  match word.toList with
  | '-' :: '-' :: cs =>
    let (name, value) := splitLong cs
    scheme.readLong level name value
  | '-' :: c :: cs => scheme.readLetters level (c :: cs)
  | _ =>
    match level.pending with
    | some (name, kind, none) => .ok { level with pending := some (name, kind, some word) }
    | _ => scheme.readOperand level word

/-- Read the words of a level up to a command, if the grammar has commands on this level. -/
def read (scheme : Scheme) (command? : String → Option CommandRule) (level : Level) :
    List String → Except Detour (Level × Option (CommandRule × List String))
  | [] => .ok (level, none)
  | word :: rest =>
    match if level.isWaiting then none else command? word with
    | some command => .ok (level, some (command, rest))
    | none =>
      if word = "--" then do
        return (← rest.foldlM scheme.readOperand level, none)
      else do scheme.read command? (← scheme.readWord level word) rest

end Scheme

namespace Grammar

def command? (grammar : Grammar) (word : String) : Option CommandRule :=
  grammar.commands.find? fun command => command.name = word || command.shortName? = some word

/-- The command that leads to the help texts. It names the command to help with. -/
def helpRule : CommandRule := ⟨"help", none, [], none, "Print this help"⟩

/-- Whether the words after the command for help name something there is help for. -/
def helpsWith (grammar : Grammar) (words : List String) : Bool :=
  match words with
  | [] => true
  | [word] => word = helpRule.name || (grammar.command? word).isSome
  | _ => false

/-- Check a level that has been read, and that the environment can stand in for options that are
not given. -/
def check (grammar : Grammar) (env : Environment) (options : List Opt) (level : Level) :
    Except Detour Level := do
  let level ← level.settle
  let has (name : String) := (level.given.lookup name).isSome
  if grammar.exclusive.any fun (a, b) => has a && has b then .error .usage
  else if options.any fun opt =>
      match opt.usage, (opt.variableName.bind env.get?) with
      | .value kind, some value => !has opt.name && !kind.accepts value
      | _, _ => false then .error .usage
  else .ok level

def outerScheme (grammar : Grammar) : Scheme := ⟨grammar.options, true, none⟩

def innerScheme (grammar : Grammar) (command : CommandRule) : Scheme :=
  ⟨command.options ++ grammar.options, false, command.operand⟩

end Grammar

structure Reading where
  command : CommandRule
  outer : List (String × String)
  inner : List (String × String)

namespace Grammar

def readCommand (grammar : Grammar) (env : Environment) (outer : Level) (command : CommandRule)
    (words : List String) : Except Detour Reading := do
  let scheme := grammar.innerScheme command
  let (inner, _) ← scheme.read (fun _ => none) .empty words
  let inner ← grammar.check env scheme.options inner
  if command.operand.any fun operand => (inner.given.lookup operand.1).isNone then .error .usage
  else
    let outer ← grammar.check env grammar.options outer
    return ⟨command, outer.given, inner.given⟩

def read (grammar : Grammar) (env : Environment) (words : List String) :
    Except Detour Reading := do
  let command? (word : String) :=
    if word = helpRule.name then some helpRule else grammar.command? word
  match ← grammar.outerScheme.read command? .empty words with
  | (_, none) => .error .usage
  | (outer, some (command, rest)) =>
    if command.name = helpRule.name then
      .error (if grammar.helpsWith rest then .help else .usage)
    else grammar.readCommand env outer command rest

end Grammar

namespace Reading

def valuesOf (reading : Reading) (name : String) : List String :=
  let on (given : List (String × String)) :=
    (given.filter fun entry => entry.1 = name).map Prod.snd
  if on reading.inner = [] then on reading.outer else on reading.inner

def value? (reading : Reading) (name : String) : Option String := (reading.valuesOf name).head?

/-- Whether an option is given. -/
def has (reading : Reading) (name : String) : Bool := (reading.value? name).isSome

/-- How often an option is given. -/
def count (reading : Reading) (name : String) : Nat := (reading.valuesOf name).length

end Reading

end Blueprint.CommandLine
