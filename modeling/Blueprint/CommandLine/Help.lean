import Blueprint.CommandLine

/-!
What a program tells about its command line: a line on its use, and a help text that lists its
commands and options. Both follow from the grammar.
-/

namespace Blueprint.CommandLine

/-- The value of an option or an operand, as it stands in a help text. -/
def ValueKind.placeholder (name : String) : ValueKind → String
  | choice words => "<" ++ String.intercalate "|" words ++ ">"
  | text | path => "<" ++ name ++ ">"

/-- How an option is written. -/
def Opt.form (opt : Opt) : String :=
  let short := match opt.letter with
    | some c => "-" ++ c.toString ++ ", "
    | none => "    "
  match opt.usage with
  | .flag => short ++ "--" ++ opt.name
  | .counter => short ++ "--" ++ opt.name ++ "..."
  | .value kind => short ++ "--" ++ opt.name ++ " " ++ kind.placeholder opt.name

/-- How a command is written, without its options. -/
def CommandRule.form (command : CommandRule) : String :=
  command.name ++
    (match command.operand with
      | some (name, kind) => " " ++ kind.placeholder name
      | none => "") ++
    match command.shortName? with
    | some short => " [" ++ short ++ "]"
    | none => ""

/-- Lines of two columns. The second column begins two places after the longest entry of the
first. -/
def columns (indent : String) (rows : List (String × String)) : List String :=
  let width := (rows.map fun row => row.1.length).foldl max 0
  rows.map fun (first, second) =>
    indent ++ first ++ String.ofList (List.replicate (width - first.length + 2) ' ') ++ second

def optionLines (indent : String) (options : List Opt) : List String :=
  columns indent (options.map fun opt => (opt.form, opt.about))

/-- The options that every program has. -/
def commonOptions : List Opt :=
  [⟨"help", some 'h', .flag, none, "Print help"⟩,
    ⟨"version", some 'V', .flag, none, "Print version"⟩]

namespace Grammar

def usageLine (grammar : Grammar) : String := s!"Usage: {grammar.program} [OPTIONS] <COMMAND>"

def helpText (grammar : Grammar) : String :=
  let commands := grammar.commands ++ [helpRule]
  let own := grammar.commands.filter fun command => command.options ≠ []
  String.intercalate "\n"
    ([grammar.about, "", grammar.usageLine, "", "Commands:"] ++
      columns "  " (commands.map fun command => (command.form, command.about)) ++
      ["", "Options:"] ++ optionLines "  " (grammar.options ++ commonOptions) ++
      own.flatMap fun command =>
        ["", s!"Options of {command.name}:"] ++ optionLines "  " command.options)

/-- What is told when a command line is not accepted. -/
def refusal (grammar : Grammar) : String :=
  String.intercalate "\n"
    ["error: the command line is not accepted", "", grammar.usageLine, "",
      "For more information, try '--help'."]

end Grammar

end Blueprint.CommandLine
