/-
**What commands do.**

* `Outcome`: an exit code with all that was printed, or a fault of a settings file that ends a
  command without a message of its own.
* `Command.paths`: the files that a command may look at.
* `Command.execute`: a command, given those files, the environment and the standard input.

Settings are resolved before the source is looked for, and the source is found before it is read.
Lines of files and of the standard input may end in any way; a text given as an argument is taken as
it is.
-/

import Calculator.Settings.Sources
import Calculator.Syntax.Tree
import Calculator.Terminal.Arguments
import Calculator.Terminal.Dialogue
import Calculator.Terminal.Table
import Calculator.Text.Basic

namespace Calculator

open Text (unifyLineEnds)

/-! ### Outcomes -/

/-- How a command ends. -/
inductive Outcome where
  | finished (exit : Nat) (transcript : Transcript)
  | broken (fault : SettingsFault)

namespace Outcome

/-- All went well. -/
def printed (out : String) : Outcome := .finished 0 ⟨out, ""⟩

/-- A failure, in words on a line of their own. -/
def refused (exit : Nat) (message : String) : Outcome := .finished exit ⟨"", errorLine message⟩

/-- The arguments ask for nothing. -/
def misused (error : UsageError) : Outcome := .refused 2 ("Error: " ++ error.text)

end Outcome

/-- What a command finds around it. -/
structure Surroundings where
  disk : Disk
  texts : Overrides
  input : String

/-- The text with a line feed at the end of every line. -/
def plainLines (text : String) : String := String.ofList (unifyLineEnds text.toList)

/-! ### Settings and sources -/

/-- The settings that a profile selects. -/
def Profile.settings (around : Surroundings) (profile : Profile) :
    Except SettingsFault Settings := do
  let settings ← Settings.resolve around.disk (Path.ofText profile.directory) around.texts
  match profile.division with
  | none => return settings
  | some name => (settings.withPolicy name).mapError .ofError

/-- Goes on with the settings that a profile selects. -/
def Profile.andThen (around : Surroundings) (profile : Profile) (next : Settings → Outcome) :
    Outcome :=
  match profile.settings around with
  | .ok settings => next settings
  | .error (.invalid error) => .refused 2 ("Error: " ++ error.text)
  | .error fault => .broken fault

/-- The text to run: an expression, a file or the standard input. -/
def sourceText (around : Surroundings) (file expression : Option String) :
    Except Outcome String :=
  match expression, file with
  | some _, some _ => .error (.refused 2 "Error: pass either FILE or --expr, not both")
  | some text, none => .ok text
  | none, none => .ok (plainLines around.input)
  | none, some file =>
    let path := Path.ofText file
    if path.text = "-" then .ok (plainLines around.input)
    else
      match around.disk.find? path with
      | none => .error (.refused 1 ("Error: File not found: " ++ path.text))
      | some .directory => .error (.broken .directory)
      | some .overlong => .error (.broken .pathTooLong)
      | some (.file content) => .ok (plainLines content)

/-! ### Commands -/

/-- A number in JSON; one that is not finite is written as a text. -/
def presentNumber (x : Float) : Value :=
  match Binary64.shape x with
  | .finite .. => .float x
  | _ => .text (Binary64.text x)

/-- What the outcome of a run prints. -/
def Report.outcome (json : Bool) (report : Report) : Outcome :=
  let exit := if report.success then 0 else 1
  if json then .finished exit ⟨(report.summary presentNumber).json ++ "\n", ""⟩
  else
    match report.value? with
    | some x => .finished exit ⟨Binary64.text x ++ "\n", ""⟩
    | none => .refused exit (report.error?.getD "")

/-- The tokens of a text, as a table. -/
def showTokens (source : String) : Outcome :=
  match scanText source with
  | .error e => .refused 1 e.diagnostic.headline
  | .ok tokens => .printed (String.join ((tokenTable tokens).map (· ++ "\n")))

/-- The program of a text, in canonical form or as JSON. -/
def showTree (source : String) (json : Bool) : Outcome :=
  match Program.read .standard source with
  | .error e => .refused 1 e.diagnostic.headline
  | .ok program =>
    if !json then .printed (program.text ++ "\n")
    else if program.isDumpable then .printed (program.value.jsonIndented "" ++ "\n")
    else
      .refused 1 ("Error: program is too deeply nested to dump as JSON (Error serializing to JSON: "
        ++ "ValueError: Maximum serialization depth exceeded)")

/-- The version of the program. -/
def programVersion : String := "0.1.0"

namespace Command

/-- The files that a command may look at. -/
def paths : Command → List Path
  | .run file _ _ profile => settingsPaths profile ++ (file.map Path.ofText).toList
  | .converse profile => settingsPaths profile
  | _ => []
where
  /-- The files that settings come from. -/
  settingsPaths (profile : Profile) : List Path :=
    let root := Path.ofText profile.directory
    [root.child ownFile, root.child projectFile]

/-- The command reads the standard input as a whole. -/
def readsInput : Command → Bool
  | .run file none _ _ => (file.map fun file => (Path.ofText file).text).all (· = "-")
  | _ => false

/-- What a command does. -/
def execute (around : Surroundings) : Command → Outcome
  | .run file expression json profile =>
    profile.andThen around fun settings =>
      match sourceText around file expression with
      | .error outcome => outcome
      | .ok source => (runText settings source).outcome json
  | .tokens source => showTokens source
  | .tree source json => showTree source json
  | .converse profile =>
    profile.andThen around fun settings =>
      .finished 0 (.ofLines (.fresh settings) (Text.lines (unifyLineEnds around.input.toList)))
  | .version => .printed (programVersion ++ "\n")

/-- What the command does that some arguments ask for. -/
def executeArguments (around : Surroundings) (arguments : List String) : Outcome :=
  match ofArguments arguments with
  | .error error => .misused error
  | .ok command => command.execute around

end Command

end Calculator
