/-
**The program.**

* `main`: the command that the arguments ask for, on the files, the environment and the standard
  input of the process.
* `converse`: a dialogue that answers each line before it reads the next one.
-/

import Calculator.Terminal.Execution

namespace Calculator

open Text (unifyLineEnds)

/-- What a path leads to on the disk. -/
def lookAt (path : Path) : IO (Option Entry) := do
  try
    return some (.file (← IO.FS.readFile path.text))
  catch
    | .inappropriateType .. => return some .directory
    | .invalidArgument .. => return some .overlong
    | _ => return none

/-- The disk under some paths. -/
def lookAtAll (paths : List Path) : IO Disk := do
  let found ← paths.mapM fun path => return (path, ← lookAt path)
  return ⟨fun path => (found.lookup path).join, fun _ => "not a document"⟩

/-- The environment's texts for the settings. -/
def readEnvironment : IO Overrides := do
  let names := [DivisionPolicy.variableName, Limit.depth.variableName, Limit.steps.variableName]
  let found ← names.mapM fun name => return (name, ← IO.getEnv name)
  return .ofEnvironment fun name => (found.lookup name).join

/-- Prints what an outcome holds and yields its exit code. -/
def report : Outcome → IO UInt32
  | .finished exit transcript => do
    (← IO.getStdout).putStr transcript.out
    (← IO.getStderr).putStr transcript.err
    return exit.toUInt32
  | .broken _ => do
    (← IO.getStderr).putStr "Error: unusable settings or source file\n"
    return 1

/-- Answers lines as they come in. -/
partial def converse (input : IO.FS.Stream) (dialogue : Dialogue) : IO UInt32 := do
  let stdout ← IO.getStdout
  let stderr ← IO.getStderr
  let rec answerAll (dialogue : Dialogue) : List (List Char) → IO (Option Dialogue)
    | [] => return some dialogue
    | line :: rest => do
      match dialogue.answer line with
      | none => return none
      | some (reply, next) =>
        stdout.putStr reply.out
        stderr.putStr reply.err
        unless rest = [] do stdout.putStr prompt
        answerAll next rest
  stdout.putStr prompt
  stdout.flush
  let text ← input.getLine
  if text = "" then
    stdout.putStr "\n"
    return 0
  match ← answerAll dialogue (Text.lines (unifyLineEnds text.toList)) with
  | none => return 0
  | some next => converse input next

end Calculator

open Calculator in
/-- Runs the command that the arguments ask for. -/
def main (arguments : List String) : IO UInt32 := do
  match Command.ofArguments arguments with
  | .error error => report (.misused error)
  | .ok command =>
    let disk ← lookAtAll command.paths
    let texts ← readEnvironment
    match command with
    | .converse profile =>
      match profile.settings ⟨disk, texts, ""⟩ with
      | .ok settings => converse (← IO.getStdin) (.fresh settings)
      | .error _ => report (command.execute ⟨disk, texts, ""⟩)
    | _ =>
      let input ← if command.readsInput then (← IO.getStdin).readToEnd else pure ""
      report (command.execute ⟨disk, texts, input⟩)
