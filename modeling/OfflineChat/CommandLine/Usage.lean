import OfflineChat.CommandLine.Command

/-! # How to use the command line

The forms of the commands of a grammar, one line each, and what is said to words
that are no command.
-/
namespace OfflineChat

/-- How an option is written in a form; the options that are not part of a command are left out. -/
def OptionRule.form? (r : OptionRule) : Option String :=
  let value := "--" ++ r.long ++ " <" ++ r.long.toUpper ++ ">"
  match r.kind with
  | .switch => some ("[--" ++ r.long ++ "]")
  | .valued true => some value
  | .valued false => some ("[" ++ value ++ "]")
  | .help | .version => none

/-- How an operand is written in a form. -/
def OperandRule.form (r : OperandRule) : String := "<" ++ r.name.toUpper ++ ">"

namespace Grammar

variable {α : Type}

/-- The form of a command with a name. -/
def form (name : String) (options : List OptionRule) (operands : List OperandRule) : String :=
  String.intercalate " "
    (name :: (options.filterMap OptionRule.form? ++ operands.map OperandRule.form))

mutual

/-- The forms of the commands of a grammar, whose names start with a name. -/
def forms (name : String) : Grammar α → List String
  | .command options operands _ => [form name options operands]
  | .choice _ subcommands => formsOf name subcommands

/-- The forms of subcommands. -/
def formsOf (name : String) : List (String × Grammar α) → List String
  | [] => []
  | (sub, g) :: rest => forms (name ++ " " ++ sub) g ++ formsOf name rest

end

end Grammar

namespace UsageError

/-- Whether the words ask for what is shown. -/
def isAsked : UsageError → Bool
  | .displayHelp | .displayVersion => true
  | _ => false

/-- What is wrong with words that are no command. -/
def explanation : UsageError → String
  | .displayHelp | .displayVersion | .displayHelpOnMissing => ""
  | .missingSubcommand => "a command is missing"
  | .invalidSubcommand => "there is no such command"
  | .unknownArgument => "unexpected argument"
  | .argumentConflict => "an option was given twice"
  | .missingRequired => "a required argument is missing"
  | .invalidValue => "an option lacks its value"
  | .tooManyValues => "an option takes no value"

end UsageError

namespace Invocation

/-- The name of the program. -/
def programName : String := "chatdroid"

/-- The version of the program. -/
def version : String := "0.2.0"

/-- The lines that tell how to use the program. -/
def help : List String :=
  ["Usage: " ++ Grammar.form programName grammar.options [] ++ " <COMMAND>", "", "Commands:"] ++
    (grammar.forms programName).map ("  " ++ ·)

/-- What is shown for words that are no command. -/
def rejection (e : UsageError) : List String :=
  match e with
  | .displayVersion => [programName ++ " " ++ version]
  | .displayHelp | .displayHelpOnMissing => help
  | e => ["error: " ++ e.explanation, "", "For more information, try '--help'."]

end Invocation
end OfflineChat
