/-
**Commands and their arguments.**

* `Command`: what can be asked for at the command line.
* `UsageError`: why the arguments ask for nothing.
* `Arguments.scan`: arguments sorted into options with values, switches and operands.
* `Command.ofArguments`: the command that the arguments ask for.

Options and operands may be mixed; of an option given twice the last one counts. A value follows its
option, or an equals sign behind a long name, or a short name at once. Behind two hyphens everything
is an operand. The command may have two hyphens in front of it, since no option stands there.
-/

namespace Calculator

/-! ### Commands -/

/-- Where the settings come from. -/
structure Profile where
  division : Option String
  directory : String
  deriving DecidableEq, Repr

/-- What can be asked for. -/
inductive Command where
  | run (file expression : Option String) (json : Bool) (profile : Profile)
  | tokens (source : String)
  | tree (source : String) (json : Bool)
  | converse (profile : Profile)
  | version
  deriving DecidableEq, Repr

/-- Why the arguments ask for nothing. -/
inductive UsageError where
  | noCommand
  | unknownCommand (name : String)
  | unknownOption (name : String)
  | missingValue (name : String)
  | needlessValue (name : String)
  | missingOperand
  | extraOperand (operand : String)
  deriving DecidableEq, Repr

/-- The wording of a failure. -/
def UsageError.text : UsageError → String
  | .noCommand => "Missing command."
  | .unknownCommand name => s!"No such command '{name}'."
  | .unknownOption name => s!"No such option: {name}"
  | .missingValue name => s!"Option '{name}' requires an argument."
  | .needlessValue name => s!"Option '{name}' does not take a value."
  | .missingOperand => "Missing argument 'SOURCE'."
  | .extraOperand operand => s!"Got unexpected extra argument ({operand})"

/-! ### Sorting the arguments -/

/-- The options that a command knows. -/
inductive Flag where
  | expression
  | json
  | division
  | directory
  deriving DecidableEq, Repr

namespace Flag

/-- The long name of an option. -/
def long : Flag → String
  | .expression => "--expr"
  | .json => "--json"
  | .division => "--division"
  | .directory => "--project-dir"

/-- The short name of an option. -/
def short? : Flag → Option Char
  | .expression => some 'e'
  | .directory => some 'p'
  | _ => none

/-- The option takes a value. -/
def takesValue : Flag → Bool
  | .json => false
  | _ => true

end Flag

/-- Arguments by what they are. Values and switches stand in the order in which they came. -/
structure Arguments where
  values : List (Flag × String)
  switches : List Flag
  operands : List String
  deriving DecidableEq, Repr

namespace Arguments

/-- An argument that is an option, by its name and what is attached to it. -/
inductive Shape where
  | operand
  | long (name : String) (attached : Option String)
  | short (name : Char) (attached : Option String)

/-- What sort of argument a text is, two hyphens alone excepted. -/
def shape (argument : String) : Shape :=
  match argument.toList with
  | '-' :: '-' :: rest =>
    let name := String.ofList ('-' :: '-' :: rest.takeWhile (· ≠ '='))
    match rest.dropWhile (· ≠ '=') with
    | [] => .long name none
    | _ :: attached => .long name (some (String.ofList attached))
  | ['-', c] => .short c none
  | '-' :: c :: rest => .short c (some (String.ofList rest))
  | _ => .operand

/-- The option with a name. -/
def flag? (known : List Flag) : Shape → Option Flag
  | .operand => none
  | .long name _ => known.find? fun flag => flag.long = name
  | .short name _ => known.find? fun flag => flag.short? = some name

/-- What is attached to an option. -/
def attached? : Shape → Option String
  | .operand => none
  | .long _ attached => attached
  | .short _ attached => attached

/-- The name of an option as it was given. -/
def given : Shape → String
  | .operand => ""
  | .long name _ => name
  | .short name _ => String.ofList ['-', name]

/-- One more value in front. -/
def withValue (flag : Flag) (value : String) (a : Arguments) : Arguments :=
  { a with values := (flag, value) :: a.values }

/-- Sorts arguments, of which a command knows the options in `known`. -/
def scan (known : List Flag) : List String → Except UsageError Arguments
  | [] => .ok ⟨[], [], []⟩
  | "--" :: rest => .ok ⟨[], [], rest⟩
  | argument :: rest =>
    match shape argument with
    | .operand => do
      let more ← scan known rest
      return { more with operands := argument :: more.operands }
    | option =>
      match flag? known option with
      | none => .error (.unknownOption (given option))
      | some flag =>
        if flag.takesValue then
          match attached? option, rest with
          | some value, rest => (scan known rest).map (withValue flag value)
          | none, value :: rest => (scan known rest).map (withValue flag value)
          | none, [] => .error (.missingValue (given option))
        else if (attached? option).isSome then .error (.needlessValue (given option))
        else do
          let more ← scan known rest
          return { more with switches := flag :: more.switches }

/-- The last value of an option. -/
def value? (a : Arguments) (flag : Flag) : Option String := a.values.reverse.lookup flag

/-- The operand, if there is one at most. -/
def operand? (a : Arguments) : Except UsageError (Option String) :=
  match a.operands with
  | [] => .ok none
  | [operand] => .ok (some operand)
  | _ :: extra :: _ => .error (.extraOperand extra)

/-- The operand, if there is exactly one. -/
def operand (a : Arguments) : Except UsageError String := do
  match ← a.operand? with
  | some operand => return operand
  | none => throw .missingOperand

/-- Where the settings come from, by default the current directory. -/
def profile (a : Arguments) : Profile :=
  ⟨a.value? .division, (a.value? .directory).getD "."⟩

end Arguments

/-- The command that a name and the arguments behind it ask for. -/
def Command.ofWords : List String → Except UsageError Command
  | [] => .error .noCommand
  | "run" :: rest => do
    let a ← Arguments.scan [.expression, .json, .division, .directory] rest
    return .run (← a.operand?) (a.value? .expression) (a.switches.contains .json) a.profile
  | "tokens" :: rest => do
    let a ← Arguments.scan [] rest
    return .tokens (← a.operand)
  | "ast" :: rest => do
    let a ← Arguments.scan [.json] rest
    return .tree (← a.operand) (a.switches.contains .json)
  | "repl" :: rest => do
    let a ← Arguments.scan [.division, .directory] rest
    match a.operands with
    | [] => return .converse a.profile
    | extra :: _ => throw (.extraOperand extra)
  | "version" :: rest => do
    let a ← Arguments.scan [] rest
    match a.operands with
    | [] => return .version
    | extra :: _ => throw (.extraOperand extra)
  | name :: _ => .error (.unknownCommand name)

/-- The command that the arguments ask for. Two hyphens may stand in front of its name. -/
def Command.ofArguments : List String → Except UsageError Command
  | "--" :: words => Command.ofWords words
  | words => Command.ofWords words

end Calculator
