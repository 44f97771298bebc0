/-
**Paths.**

* `Path`: where a file is, as the steps that lead there from an anchor.
* `Path.ofText`, `Path.text`: a path from what was typed, and as messages show it.

Empty steps and steps to the same place are dropped; steps to the place above are kept. The anchor
is nothing, one slash or two; more than two count as one.
-/

import Calculator.Text.Basic

namespace Calculator

/-- Where a file is. -/
structure Path where
  /-- The slashes that an absolute path starts with. -/
  anchor : String
  steps : List String
  deriving DecidableEq, Repr

namespace Path

/-- The steps of a text, parted by slashes. -/
def splitSteps : List Char → List (List Char)
  | [] => [[]]
  | c :: rest => if c = '/' then [] :: splitSteps rest else Text.consFirst c (splitSteps rest)

/-- The anchor of a text that starts with so many slashes. -/
def anchorOf (slashes : Nat) : String :=
  if slashes = 0 then "" else if slashes = 2 then "//" else "/"

/-- The path that a text spells. -/
def ofText (text : String) : Path where
  anchor := anchorOf (text.toList.takeWhile (· = '/')).length
  steps := ((splitSteps text.toList).map String.ofList).filter fun step => step ≠ "" ∧ step ≠ "."

/-- A path as messages show it. -/
def text (path : Path) : String :=
  if path.anchor = "" ∧ path.steps = [] then "."
  else path.anchor ++ "/".intercalate path.steps

/-- One step further. -/
def child (path : Path) (step : String) : Path := { path with steps := path.steps ++ [step] }

end Path

end Calculator
