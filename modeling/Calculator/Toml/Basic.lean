/-
**TOML: what its parts have in common.**

* `Fault`: why a text is no document. What reads a part of a document yields it with the rest of the
  text, or a fault.
* `skipBlanks`, `skipComment`, `skipLayout`: what may stand between two parts.
-/

namespace Calculator.Toml

/-- Why a text is no document. -/
inductive Fault where
  | malformed
  /-- A decimal integer has more digits than are read. -/
  | integerTooLong
  deriving DecidableEq, Repr

/-- A character that may stand between two parts of a line. -/
def isBlank (c : Char) : Bool := c = ' ' || c = '\t'

/-- A control character that no text may hold. -/
def isControl (c : Char) : Bool := (c.toNat < 0x20 && c != '\t') || c.toNat = 0x7F

/-- The text after its blanks. -/
def skipBlanks (text : List Char) : List Char := text.dropWhile isBlank

/-- The text after a comment, which goes up to the end of its line. -/
def skipComment : List Char → Except Fault (List Char)
  | '#' :: rest =>
    if (rest.takeWhile (· ≠ '\n')).any isControl then .error .malformed
    else .ok (rest.dropWhile (· ≠ '\n'))
  | text => .ok text

/-- The text after blanks, line ends and comments, as they may stand between the members of an
array. -/
def skipLayout (inComment : Bool) : List Char → Except Fault (List Char)
  | [] => .ok []
  | c :: rest =>
    if inComment then
      if c = '\n' then skipLayout false rest
      else if isControl c then .error .malformed
      else skipLayout true rest
    else if isBlank c || c = '\n' then skipLayout false rest
    else if c = '#' then skipLayout true rest
    else .ok (c :: rest)

end Calculator.Toml
