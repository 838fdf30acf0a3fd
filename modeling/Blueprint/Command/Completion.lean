import Blueprint.Command.Invocation
import Blueprint.Text.Split

/-!
Scripts that teach a shell to complete the command lines of a grammar. Each script offers the
commands first and, after a command, the options that it takes.
-/

namespace Blueprint.Completion

open CommandLine

/-- An option as it is written. -/
def optionWord (opt : Opt) : String := "--" ++ opt.name

/-- The options that every level has. -/
def alwaysOffered : List String := ["--help"]

/-- The words that can follow a command. -/
def wordsAfter (grammar : Grammar) (command : CommandRule) : List String :=
  let choices := match command.operand with
    | some (_, .choice words) => words
    | _ => []
  choices ++ (command.options ++ grammar.options).map optionWord ++ alwaysOffered

/-- The words that can come first. -/
def firstWords (grammar : Grammar) : List String :=
  (grammar.commands ++ [Grammar.helpRule]).map CommandRule.name ++
    grammar.options.map optionWord ++ alwaysOffered ++ ["--version"]

/-- Words with a blank between them. -/
def spaced (words : List String) : String := String.intercalate " " words

/-- Words between quotation marks, with a separator between them. -/
def quotedWords (separator : String) (words : List String) : String :=
  String.intercalate separator (words.map fun word => "'" ++ word ++ "'")

/-- The lines of a choice between the commands, and the line for everything else. -/
def cases (grammar : Grammar) (line : CommandRule → List String → String)
    (otherwise : List String → String) : List String :=
  (grammar.commands.map fun command => line command (wordsAfter grammar command)) ++
    [otherwise (firstWords grammar)]

/-- The lines of the script for `bash`. -/
def bashLines (grammar : Grammar) : List String :=
  let reply (words : List String) :=
    "COMPREPLY=($(compgen -W \"" ++ spaced words ++ "\" -- \"$\x7bCOMP_WORDS[COMP_CWORD]\x7d\"));;"
  ["_" ++ grammar.program ++ "() \x7b", "  case \"$\x7bCOMP_WORDS[1]\x7d\" in"] ++
    cases grammar (fun command words => "    " ++ command.name ++ ") " ++ reply words)
      (fun words => "    *) " ++ reply words) ++
    ["  esac", "\x7d", "complete -F _" ++ grammar.program ++ " " ++ grammar.program]

/-- The lines of the script for `zsh`. -/
def zshLines (grammar : Grammar) : List String :=
  ["#compdef " ++ grammar.program, "case $words[2] in"] ++
    cases grammar (fun command words => "  " ++ command.name ++ ") compadd -- " ++ spaced words ++ ";;")
      (fun words => "  *) compadd -- " ++ spaced words ++ ";;") ++
    ["esac"]

/-- The lines of the script for `fish`. -/
def fishLines (grammar : Grammar) : List String :=
  let complete := "complete -c " ++ grammar.program ++ " -f -n "
  cases grammar
    (fun command words =>
      complete ++ "'__fish_seen_subcommand_from " ++ command.name ++ "' -a '" ++ spaced words ++ "'")
    (fun words => complete ++ "__fish_use_subcommand -a '" ++ spaced words ++ "'")

/-- The lines of the script for `powershell`. -/
def powershellLines (grammar : Grammar) : List String :=
  ["Register-ArgumentCompleter -Native -CommandName " ++ grammar.program ++ " -ScriptBlock \x7b",
    "  param($word, $line)",
    "  $offers = switch ($line.CommandElements[1].Value) \x7b"] ++
    cases grammar
      (fun command words => "    '" ++ command.name ++ "' \x7b " ++ quotedWords ", " words ++ " \x7d")
      (fun words => "    default \x7b " ++ quotedWords ", " words ++ " \x7d") ++
    ["  \x7d", "  $offers | Where-Object \x7b $_ -like \"$word*\" \x7d", "\x7d"]

/-- The lines of the script for `elvish`. -/
def elvishLines (grammar : Grammar) : List String :=
  ["set edit:completion:arg-completer[" ++ grammar.program ++ "] = \x7b|@words|",
    "  var offers = ["] ++
    cases grammar
      (fun command words => "    &" ++ command.name ++ "=[" ++ quotedWords " " words ++ "]")
      (fun words => "    &''=[" ++ quotedWords " " words ++ "]") ++
    ["  ]", "  var command = ''", "  if (has-key $offers $words[1]) \x7b set command = $words[1] \x7d",
      "  all $offers[$command]", "\x7d"]

def lines (grammar : Grammar) : Shell → List String
  | .bash => bashLines grammar
  | .zsh => zshLines grammar
  | .fish => fishLines grammar
  | .powershell => powershellLines grammar
  | .elvish => elvishLines grammar

/-- The names of all commands and options. -/
def names (grammar : Grammar) : List String :=
  let options := grammar.commands.flatMap CommandRule.options ++ grammar.options
  (grammar.commands.map CommandRule.name ++ options.map Opt.name ++ ["help", "version"]).eraseDups

/-- The words of a script: runs of letters, digits and dashes, without the dashes at the
beginning. -/
def wordsOf (script : String) : List String :=
  let isPart (c : Char) := Text.isAlnum c || c = '-'
  (Text.splitChars ' ' (script.toList.map fun c => if isPart c then c else ' ')).map fun cs =>
    String.ofList (cs.dropWhile (· = '-'))

def offered (grammar : Grammar) (script : String) : List String :=
  let words := wordsOf script
  (names grammar).filter fun name => words.contains name

end Blueprint.Completion
