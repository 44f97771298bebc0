/-
**Folders.**

* `Entry`: what a path leads to: a file with its text, a directory, or an end before it is followed.
* `Folder`: the files of a directory and of those inside it.
* `Folder.find?`: what a path leads to, each step being taken from a directory.

A folder knows nothing outside itself: an absolute path, or one that leads out of it, leads nowhere.
A path with too many bytes is not followed at all, and a step with too many is not taken.
-/

import Calculator.Files.Path

namespace Calculator

/-- What a path leads to. -/
inductive Entry where
  | file (content : String)
  | directory
  /-- Nothing can be there, since the path or a step on it has too many bytes. -/
  | overlong
  deriving DecidableEq, Repr

/-- The most bytes of a path that is followed. -/
def pathByteLimit : Nat := 4095

/-- The most bytes of a step that is taken. -/
def stepByteLimit : Nat := 255

/-- Files with the steps that lead to them. -/
structure Folder where
  files : List (List String × String)

namespace Folder

/-- The folder as it is seen from the directory around it. -/
def within (folder : Folder) (name : String) : Folder :=
  ⟨folder.files.map fun (steps, content) => (name :: steps, content)⟩

/-- These steps lead to a directory. -/
def isDirectory (folder : Folder) (place : List String) : Bool :=
  place = [] || folder.files.any fun (steps, _) =>
    place.isPrefixOf steps && decide (place.length < steps.length)

/-- What is at a place. -/
def at? (folder : Folder) (place : List String) : Option Entry :=
  match folder.files.lookup place with
  | some content => some (.file content)
  | none => if folder.isDirectory place then some .directory else none

/-- What the steps lead to from a place. -/
def walk (folder : Folder) (place : List String) : List String → Option Entry
  | [] => folder.at? place
  | step :: rest =>
    if folder.isDirectory place then
      if stepByteLimit < step.utf8ByteSize then some .overlong
      else if step = ".." then
        if place = [] then none else folder.walk place.dropLast rest
      else folder.walk (place ++ [step]) rest
    else none

/-- What a path leads to. -/
def find? (folder : Folder) (path : Path) : Option Entry :=
  if pathByteLimit < path.text.utf8ByteSize then some .overlong
  else if path.anchor = "" then folder.walk [] path.steps
  else (Folder.mk []).walk [] path.steps

end Folder

end Calculator
