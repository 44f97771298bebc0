/-
**Settings from files.**

* `SettingsFault`: why no settings could be had; `SettingsFault.ofError`: a failure as one of them.
* `Disk`: what paths lead to, and what is said of a file that is no TOML.
* `ownFile`, `projectFile`, `tableName`: where settings stand.
* `readTable`: the table that a file holds, if the file is there.
* `Settings.ofSelected`: settings from whatever stands where their table is expected.
* `Settings.resolve`: the settings of a directory, with the environment's texts on top.

The file of its own comes first: the settings are its table of the name `tableName`, or else all of
it. Without that file they are the table of that name within the table `tool` of the project's file.
Without either they are the standard ones.
-/

import Calculator.Files.Folder
import Calculator.Settings.Overrides
import Calculator.Toml.Document

namespace Calculator

/-- Why no settings could be had. -/
inductive SettingsFault where
  | invalid (error : SettingsError)
  /-- Something other than a table stands where the settings are expected. -/
  | notTable
  /-- Something other than a table stands where the tools are expected. -/
  | toolsNotTable
  /-- An integer has more digits than are read, or a message would need more than are written. -/
  | integerTooLong
  /-- A directory has the name of a file. -/
  | directory
  /-- The path of a file is too long to be followed. -/
  | pathTooLong

/-- What a failure amounts to: one that cannot be put into words is reported as that. -/
def SettingsFault.ofError (error : SettingsError) : SettingsFault :=
  if error.isDisplayable then .invalid error else .integerTooLong

/-- The name of the file that holds settings alone. -/
def ownFile : String := "abacus.toml"

/-- The name of the file that holds settings among others. -/
def projectFile : String := "pyproject.toml"

/-- The name of the table that holds settings, in either file. -/
def tableName : String := "abacus"

/-- A disk as files are read from it. -/
structure Disk where
  /-- What a path leads to. -/
  find? : Path → Option Entry
  /-- What the reader of TOML says of a text that is none. -/
  complaint : String → String

/-- The entries of the table that a file holds, if the file is there. -/
def readTable (disk : Disk) (path : Path) :
    Except SettingsFault (Option (List (String × Value))) :=
  match disk.find? path with
  | none => .ok none
  | some .directory => .error .directory
  | some .overlong => .error .pathTooLong
  | some (.file content) =>
    match Toml.parse content.toList with
    | .ok entries => .ok (some entries)
    | .error .malformed => .error (.invalid (.malformed path.text (disk.complaint content)))
    | .error .integerTooLong => .error .integerTooLong

/-- The text of a value that is one. -/
def Value.text? : Value → Option String
  | .text value => some value
  | _ => none

/-- The keys of a value: those of a table, the characters of a text, the members of a list of
texts. -/
def Value.keys? : Value → Option (List String)
  | .table entries => some (entries.map Prod.fst)
  | .text value => some (value.toList.map String.singleton)
  | .list items => items.mapM Value.text?
  | _ => none

/-- The settings that the value at `place` makes. Unknown keys are named before anything else. -/
def Settings.ofSelected (place : String) (value : Value) : Except SettingsFault Settings :=
  match value.keys? with
  | none => .error .notTable
  | some keys =>
    match Settings.checkKeys place keys with
    | .error error => .error (.ofError error)
    | .ok _ =>
      match value with
      | .table entries => (Settings.ofFields entries).mapError .ofError
      | _ => .error .notTable

/-- The settings that the files of a directory make. -/
def Settings.ofFiles (disk : Disk) (root : Path) :
    Except SettingsFault Settings := do
  let own := root.child ownFile
  match ← readTable disk own with
  | some entries =>
    Settings.ofSelected own.text ((entries.lookup tableName).getD (.table entries))
  | none =>
    let project := root.child projectFile
    match ← readTable disk project with
    | none => return standard
    | some entries =>
      match entries.lookup "tool" with
      | none => return standard
      | some (.table tools) =>
        match tools.lookup tableName with
        | none => return standard
        | some selected =>
          Settings.ofSelected (project.text ++ " [tool." ++ tableName ++ "]") selected
      | some _ => throw .toolsNotTable

/-- The settings of a directory: those of its files, then the texts of the environment. -/
def Settings.resolve (disk : Disk) (root : Path) (texts : Overrides) :
    Except SettingsFault Settings := do
  let settings ← Settings.ofFiles disk root
  (settings.override texts).mapError .ofError

end Calculator
