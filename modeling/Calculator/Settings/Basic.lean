/-
**Settings.**

* `Settings`: what a zero divisor does, how deep parentheses may nest and how many nodes may be
  visited. A limit is at least one by its type.
* `SettingsError`: what is wrong with a setting, its wording, and whether it can be put into words.
* `DivisionPolicy.ofValue`, `Limit.positive`, `Limit.optional`: a value as a setting.
* `Settings.ofEntries`: settings from the entries of a table, unknown keys being refused first.
-/

import Calculator.Data.Value
import Calculator.Evaluation.Basic

namespace Calculator

open Text (quoted)

/-! ### The settings -/

/-- A number that is at least one. -/
abbrev Positive : Type := { number : Nat // 1 ≤ number }

/-- The limits that can be set. -/
inductive Limit where
  | depth
  | steps
  deriving DecidableEq, Repr

/-- The key of a limit. -/
def Limit.key : Limit → String
  | .depth => "max_depth"
  | .steps => "max_steps"

/-- What a program has to keep to. -/
structure Settings where
  division : DivisionPolicy
  maxDepth : Positive
  /-- No limit if absent. -/
  maxSteps : Option Positive
  deriving DecidableEq

namespace Settings

/-- The settings where nothing is set. -/
def standard : Settings := ⟨.ieee, ⟨200, by decide⟩, none⟩

/-- The part of the settings that an evaluation has to keep to. -/
def rules (settings : Settings) : Rules :=
  ⟨settings.division, settings.maxSteps.map Subtype.val⟩

/-- The keys of the settings. -/
def keys : List String := ["division", Limit.depth.key, Limit.steps.key]

end Settings

/-! ### Failures -/

/-- What is wrong with a setting. -/
inductive SettingsError where
  /-- The keys of `place` that are no settings. -/
  | unknownKeys (place : String) (keys : List String)
  | unknownPolicy (found : Value)
  | notInteger (limit : Limit) (found : Value)
  | notPositive (limit : Limit) (found : Int)
  /-- An environment variable holds no integer. -/
  | notIntegerText (name : String) (found : String)
  /-- A file is no TOML, for the reason that its reader gives. -/
  | malformed (place reason : String)

namespace SettingsError

/-- The wording of a failure. -/
def text : SettingsError → String
  | .unknownKeys place keys => s!"Unknown setting(s) in {place}: " ++ ", ".intercalate keys
  | .unknownPolicy found => s!"division must be one of ieee, error, got {found.display}"
  | .notInteger limit found => s!"{limit.key} must be an integer, got {found.display}"
  | .notPositive limit found => s!"{limit.key} must be at least 1, got {found}"
  | .notIntegerText name found => s!"{name} must be an integer, got {quoted found}"
  | .malformed place reason => s!"Invalid TOML in {place}: {reason}"

/-- The wording of a failure holds no integer that takes too many digits. -/
def isDisplayable : SettingsError → Bool
  | .unknownPolicy found => found.isDisplayable
  | .notInteger _ found => found.isDisplayable
  | .notPositive _ found => Text.isSpellable found
  | _ => true

/-- The failure in words. -/
def diagnostic (e : SettingsError) : Diagnostic := .configuration e.text

end SettingsError

/-! ### Values as settings -/

/-- The name of a policy. -/
def DivisionPolicy.name : DivisionPolicy → String
  | .ieee => "ieee"
  | .refuse => "error"

/-- The policy that a value names. -/
def DivisionPolicy.ofValue (value : Value) : Except SettingsError DivisionPolicy :=
  match value with
  | .text "ieee" => .ok .ieee
  | .text "error" => .ok .refuse
  | _ => .error (.unknownPolicy value)

namespace Limit

/-- A limit from an integer. -/
def positive (limit : Limit) (number : Int) : Except SettingsError Positive :=
  if large : 1 ≤ number then .ok ⟨number.toNat, by omega⟩ else .error (.notPositive limit number)

/-- A limit from a value. -/
def ofValue (limit : Limit) : Value → Except SettingsError Positive
  | .integer number => limit.positive number
  | found => .error (.notInteger limit found)

/-- A limit from a value that may be absent. -/
def optional (limit : Limit) : Value → Except SettingsError (Option Positive)
  | .null => .ok none
  | found => (limit.ofValue found).map some

end Limit

/-! ### Tables as settings -/

/-- Texts in order, each once. -/
def sortedOnce (texts : List String) : List String :=
  texts.eraseDups.mergeSort fun first second => decide (first ≤ second)

/-- Refuses keys that are no settings; all of them are named, in order. -/
def Settings.checkKeys (place : String) (found : List String) : Except SettingsError Unit :=
  match sortedOnce (found.filter fun key => !Settings.keys.contains key) with
  | [] => .ok ()
  | unknown => .error (.unknownKeys place unknown)

/-- A setting from the entries of a table, or its standard. -/
def entryOr {α : Type} (entries : List (String × Value)) (key : String) (standard : α)
    (read : Value → Except SettingsError α) : Except SettingsError α :=
  match entries.lookup key with
  | none => .ok standard
  | some value => read value

/-- The settings that the entries of a table make. -/
def Settings.ofFields (entries : List (String × Value)) : Except SettingsError Settings := do
  let division ← entryOr entries "division" standard.division DivisionPolicy.ofValue
  let maxDepth ← entryOr entries Limit.depth.key standard.maxDepth Limit.depth.ofValue
  let maxSteps ← entryOr entries Limit.steps.key standard.maxSteps Limit.steps.optional
  return ⟨division, maxDepth, maxSteps⟩

/-- The settings that the entries of the table at `place` make, if all keys are known. -/
def Settings.ofEntries (place : String) (entries : List (String × Value)) :
    Except SettingsError Settings := do
  Settings.checkKeys place (entries.map Prod.fst)
  Settings.ofFields entries

end Calculator
