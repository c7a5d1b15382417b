/-! # Command-line grammar

Words into a command.  A `Grammar` is a tree of subcommands whose leaves take
options and operands.  `Grammar.read` walks over the words once; an option
waits for its value until the next word, and what the words leave out may come
from the environment or from a default.
-/
namespace OfflineChat

/-- Why words are no command. -/
inductive UsageError where
  | displayHelp
  | displayVersion
  /-- Nothing at all was given where something has to be. -/
  | displayHelpOnMissing
  | missingSubcommand
  | invalidSubcommand
  | unknownArgument
  | argumentConflict
  | missingRequired
  | invalidValue
  | tooManyValues
deriving DecidableEq, Repr

namespace UsageError

/-- The name of an error. -/
def name : UsageError → String
  | .displayHelp => "DisplayHelp"
  | .displayVersion => "DisplayVersion"
  | .displayHelpOnMissing => "DisplayHelpOnMissingArgumentOrSubcommand"
  | .missingSubcommand => "MissingSubcommand"
  | .invalidSubcommand => "InvalidSubcommand"
  | .unknownArgument => "UnknownArgument"
  | .argumentConflict => "ArgumentConflict"
  | .missingRequired => "MissingRequiredArgument"
  | .invalidValue => "InvalidValue"
  | .tooManyValues => "TooManyValues"

end UsageError

/-- What an option does. -/
inductive OptionKind where
  /-- It is there or not. -/
  | switch
  /-- It takes a value; whether it must be there. -/
  | valued (needed : Bool)
  | help
  | version
deriving DecidableEq, Repr

/-- An option. -/
structure OptionRule where
  long : String
  short : Option Char
  kind : OptionKind
  /-- The variable of the environment that stands in for it. -/
  variableName : Option String
  /-- Whether its value is a path, which may not be empty. -/
  isPath : Bool
deriving Repr

namespace OptionRule

/-- An option that is there or not. -/
def switch (long : String) (short : Option Char) : OptionRule :=
  ⟨long, short, .switch, none, false⟩

/-- An option with a value. -/
def valued (long : String) (short : Option Char) (needed : Bool) (isPath : Bool) : OptionRule :=
  ⟨long, short, .valued needed, none, isPath⟩

/-- The option for help. -/
def help : OptionRule := ⟨"help", some 'h', .help, none, false⟩

/-- The option for the version. -/
def version : OptionRule := ⟨"version", some 'V', .version, none, false⟩

/-- The option with a variable of the environment standing in for it. -/
def orVariable (r : OptionRule) (name : String) : OptionRule := { r with variableName := some name }

/-- Whether the option takes a value. -/
def takesValue (r : OptionRule) : Bool :=
  match r.kind with
  | .valued _ => true
  | _ => false

end OptionRule

/-- An operand. -/
structure OperandRule where
  name : String
  isPath : Bool
deriving Repr

/-- What was given: the switches, and values by the name of their option or operand. -/
structure Given where
  switches : List String
  values : List (String × String)
deriving Repr

namespace Given

/-- Whether a switch was given. -/
def has (g : Given) (name : String) : Bool := g.switches.contains name

/-- The value of an option or operand. -/
def value? (g : Given) (name : String) : Option String := g.values.lookup name

/-- The value of an option or operand, or the empty text. -/
def value (g : Given) (name : String) : String := (g.value? name).getD ""

/-- Whether anything at all was given for a name. -/
def met (g : Given) (name : String) : Bool := g.has name || (g.value? name).isSome

end Given

/-- A tree of commands. -/
inductive Grammar (α : Type) where
  /-- A command with its options and operands, all of which are needed. -/
  | command (options : List OptionRule) (operands : List OperandRule) (build : Given → α)
  /-- A choice of subcommands. -/
  | choice (options : List OptionRule) (subcommands : List (String × Grammar α))

/-- The state of reading the words of one command. -/
structure Walk where
  given : Given
  /-- The option whose value comes next or has just come. -/
  pending : Option (OptionRule × Option String)
  /-- How many operands were read. -/
  operands : Nat

namespace Walk

/-- Nothing read. -/
def start : Walk := ⟨⟨[], []⟩, none, 0⟩

/-- Take the value of an option. -/
def take (w : Walk) (r : OptionRule) (v : String) : Except UsageError Walk :=
  if w.given.met r.long then .error .argumentConflict
  else if r.isPath ∧ v = "" then .error .invalidValue
  else .ok { w with given := { w.given with values := w.given.values ++ [(r.long, v)] } }

/-- Take the pending option. -/
def resolve (w : Walk) : Except UsageError Walk :=
  let done := { w with pending := none }
  match w.pending with
  | none => .ok done
  | some (_, none) => .error .invalidValue
  | some (r, some v) => done.take r v

/-- Take an option without a value. -/
def switch (w : Walk) (r : OptionRule) : Except UsageError Walk := do
  let w ← w.resolve
  match r.kind with
  | .help => throw .displayHelp
  | .version => throw .displayVersion
  | _ =>
    if w.given.met r.long then throw .argumentConflict
    else pure { w with given := { w.given with switches := w.given.switches ++ [r.long] } }

/-- Take an option with the value attached to it, or wait for one. -/
def valued (w : Walk) (r : OptionRule) (attached : Option String) : Except UsageError Walk := do
  let w ← w.resolve
  match attached with
  | some v => w.take r v
  | none => pure { w with pending := some (r, none) }

/-- Whether a value is awaited. -/
def awaits (w : Walk) : Bool :=
  match w.pending with
  | some (_, none) => true
  | _ => false

end Walk

namespace Grammar

variable {α : Type}

/-- The options of a command. -/
def options : Grammar α → List OptionRule
  | .command os _ _ => os
  | .choice os _ => os

/-- The operands of a command. -/
def operands : Grammar α → List OperandRule
  | .command _ ps _ => ps
  | .choice _ _ => []

/-- Whether words choose a subcommand. -/
def isChoice : Grammar α → Bool
  | .choice .. => true
  | .command .. => false

/-- The subcommand of a name. -/
def subcommand? (g : Grammar α) (name : String) : Option (Grammar α) :=
  match g with
  | .choice _ cs => cs.lookup name
  | .command .. => none

/-- Cut a long option at its equals sign. -/
def cutEquals (cs : List Char) : String × Option String :=
  match cs.dropWhile (· != '=') with
  | _ :: v => (String.ofList (cs.takeWhile (· != '=')), some (String.ofList v))
  | [] => (String.ofList cs, none)

/-- Read a long option. -/
def readLong (os : List OptionRule) (cs : List Char) (w : Walk) : Except UsageError Walk :=
  let (name, attached) := cutEquals cs
  match os.find? (·.long == name) with
  | none => .error .unknownArgument
  | some r =>
    if r.takesValue then w.valued r attached
    else if attached.isSome then .error .tooManyValues
    else w.switch r

/-- Read short options in one word. -/
def readShort (os : List OptionRule) : List Char → Walk → Except UsageError Walk
  | [], w => .ok w
  | c :: rest, w =>
    match os.find? (·.short == some c) with
    | none => .error .unknownArgument
    | some r =>
      if r.takesValue then
        w.valued r (match rest with
          | [] => none
          | '=' :: v => some (String.ofList v)
          | v => some (String.ofList v))
      else do readShort os rest (← w.switch r)

/-- Read a word that is no option. -/
def readOperand (g : Grammar α) (trailing : Bool) (word : String) (w : Walk) :
    Except UsageError Walk :=
  match g.operands[w.operands]? with
  | some p => do
    let w ← w.resolve
    pure { w with
      operands := w.operands + 1
      pending := some (⟨p.name, none, .valued true, none, p.isPath⟩, some word) }
  | none =>
    if g.isChoice ∧ !(trailing ∧ (g.subcommand? word).isSome ∨ trailing ∧ word = "help") then
      .error .invalidSubcommand
    else .error .unknownArgument

/-- Go down the words after `help`. -/
def readHelp (g : Grammar α) : List String → UsageError
  | [] => .displayHelp
  | word :: rest => match g with
    | .choice _ cs =>
      if word = "help" then (if rest.isEmpty then .displayHelp else .invalidSubcommand)
      else match cs.lookup word with
        | some sub => match sub, rest with
          | _, [] => .displayHelp
          | .choice .., rest => readHelp sub rest
          | .command .., _ => .invalidSubcommand
        | none => .invalidSubcommand
    | .command .. => .invalidSubcommand

/-- The subcommand a word chooses, and the words after it. -/
structure Chosen (α : Type) where
  name : String
  grammar : Grammar α
  rest : List String

/-- Read the words of one command up to a subcommand. -/
def walk (g : Grammar α) : Bool → List String → Walk →
    Except UsageError (Walk × Option (Chosen α))
  | _, [], w => .ok (w, none)
  | true, word :: rest, w => do walk g true rest (← g.readOperand true word w)
  | false, word :: rest, w =>
    let operand : Except UsageError (Walk × Option (Chosen α)) :=
      match w.pending with
      | some (r, none) => walk g false rest { w with pending := some (r, some word) }
      | _ => do walk g false rest (← g.readOperand false word w)
    match (if w.awaits then none else g.subcommand? word) with
    | some sub => .ok (w, some ⟨word, sub, rest⟩)
    | none =>
      if g.isChoice ∧ word = "help" ∧ !w.awaits then .error (g.readHelp rest)
      else match word.toList with
        | ['-', '-'] => walk g true rest w
        | '-' :: '-' :: cs => do walk g false rest (← readLong g.options cs w)
        | '-' :: c :: cs => do walk g false rest (← readShort g.options (c :: cs) w)
        | _ => operand

/-- What the environment gives for options left out. -/
def fromEnvironment (env : String → Option String) (os : List OptionRule) (w : Walk) :
    Except UsageError Walk :=
  os.foldlM (fun w r =>
    match r.variableName.bind env with
    | some v => if w.given.met r.long then pure w else w.take r v
    | none => pure w) w

/-- Refuse what lacks something it needs. -/
def check (g : Grammar α) (chosen : Bool) (w : Walk) : Except UsageError Unit :=
  let nothing := w.given.switches.isEmpty && w.given.values.isEmpty
  let lacks := g.options.any fun r => r.kind == .valued true && !w.given.met r.long
  let lacksOperand := g.operands.any fun p => !w.given.met p.name
  if g.isChoice ∧ !chosen then
    .error (if nothing then .displayHelpOnMissing else .missingSubcommand)
  else if lacks ∨ lacksOperand then .error .missingRequired
  else .ok ()

/-- Read words as a command: what was given at each level, outermost first, and the command.  There
are no more levels than `depth`. -/
def readLevels (env : String → Option String) :
    Nat → Grammar α → List String → Except UsageError (List Given × α)
  | 0, _, _ => .error .unknownArgument
  | depth + 1, g, words => do
    let (w, chosen) ← g.walk false words .start
    let inner ← match chosen with
      | none => pure none
      | some c => (readLevels env depth c.grammar c.rest).map some
    let w ← w.resolve
    let w ← fromEnvironment env g.options w
    g.check chosen.isSome w
    match g, inner with
    | .command _ _ build, _ => pure ([w.given], build w.given)
    | .choice .., some (levels, a) => pure (w.given :: levels, a)
    | .choice .., none => throw .missingSubcommand

/-- Read words as a command, and what was given in front of it. -/
def read (env : String → Option String) (g : Grammar α) (words : List String) :
    Except UsageError (Given × α) :=
  (readLevels env (words.length + 1) g words).map fun r => (r.1.head?.getD ⟨[], []⟩, r.2)

end Grammar
end OfflineChat
