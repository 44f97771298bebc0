/-
**Settings from the environment.**

* `Overrides`: the texts that environment variables hold for the settings.
* `Settings.override`: settings with these texts in place of what was set before.

A variable that is empty counts as absent. Both limits must be integers before any setting is
checked.
-/

import Calculator.Settings.Basic
import Calculator.Text.Casing
import Calculator.Text.Integer

namespace Calculator

open Text (lowercase trim readInteger)

/-- The texts that the environment holds for the settings. None of them is empty. -/
structure Overrides where
  division : Option String
  maxDepth : Option String
  maxSteps : Option String
  deriving DecidableEq, Repr

/-- The environment variable of a limit. -/
def Limit.variableName : Limit → String
  | .depth => "ABACUS_MAX_DEPTH"
  | .steps => "ABACUS_MAX_STEPS"

/-- The environment variable of the division policy. -/
def DivisionPolicy.variableName : String := "ABACUS_DIVISION"

/-- The texts of an environment. -/
def Overrides.ofEnvironment (lookup : String → Option String) : Overrides :=
  let filled (name : String) := (lookup name).filter (· ≠ "")
  ⟨filled DivisionPolicy.variableName, filled Limit.depth.variableName,
    filled Limit.steps.variableName⟩

/-- A text without blanks around it, in lower case. -/
def normalWord (text : String) : String := String.ofList (lowercase (trim text.toList))

/-- The integer that a variable holds. -/
def Limit.readText (limit : Limit) (text : String) : Except SettingsError Int :=
  match readInteger text.toList with
  | some number => .ok number
  | none => .error (.notIntegerText limit.variableName text)

/-- The integer that a variable holds, or that there is to be no limit. -/
def Limit.readOptionalText (limit : Limit) (text : String) : Except SettingsError (Option Int) :=
  if normalWord text = "none" ∨ normalWord text = "unlimited" then .ok none
  else (limit.readText text).map some

/-- The settings with those texts that are there in place of what was set before. -/
def Settings.override (settings : Settings) (texts : Overrides) :
    Except SettingsError Settings := do
  let depth ← texts.maxDepth.mapM Limit.depth.readText
  let steps ← texts.maxSteps.mapM Limit.steps.readOptionalText
  let division ← match texts.division with
    | none => .ok settings.division
    | some text => DivisionPolicy.ofValue (.text (normalWord text))
  let maxDepth ← match depth with
    | none => .ok settings.maxDepth
    | some number => Limit.depth.positive number
  let maxSteps ← match steps with
    | none => .ok settings.maxSteps
    | some number => number.mapM Limit.steps.positive
  return ⟨division, maxDepth, maxSteps⟩

/-- The settings with another division policy, which is named in any case. -/
def Settings.withPolicy (settings : Settings) (name : String) : Except SettingsError Settings := do
  let division ← DivisionPolicy.ofValue (.text (String.ofList (lowercase name.toList)))
  return { settings with division }

end Calculator
