/-
**Characters, blanks and lines.**

* `CodePoints`: a set of characters, given as closed ranges of code points; the tables of character
  properties are values of this type.
* `isBlank`: the characters that separate tokens and that trimming removes.
* `trim`: a text without the blanks at its two ends.
* `unifyLineEnds`: every way to end a line becomes a line feed.
* `lines`: the lines of a text, without their ends.
* `lines_flatten`: a text that closes its last line is its lines, each followed by a line feed.

Blank is the white space of Unicode 14.0 and the four information separators, U+001C to U+001F. A
carriage return ends a line, alone or before a line feed. Text after the last line feed is a line of its
own; nothing after it is none.
-/

namespace Calculator.Text

/-! ### Sets of characters -/

/-- Closed ranges of code points, ascending and apart. -/
structure CodePoints where
  ranges : List (Nat × Nat)

namespace CodePoints

/-- The range that holds the character. -/
def rangeOf? (set : CodePoints) (c : Char) : Option (Nat × Nat) :=
  set.ranges.find? fun range => range.1 ≤ c.toNat && c.toNat ≤ range.2

/-- The character lies in one of the ranges. -/
def contains (set : CodePoints) (c : Char) : Bool := (set.rangeOf? c).isSome

end CodePoints

/-! ### Blanks -/

/-- White space and the information separators. -/
def blanks : CodePoints where
  ranges := [
    (0x0009, 0x000D), (0x001C, 0x0020), (0x0085, 0x0085), (0x00A0, 0x00A0), (0x1680, 0x1680),
    (0x2000, 0x200A), (0x2028, 0x2029), (0x202F, 0x202F), (0x205F, 0x205F), (0x3000, 0x3000)]

/-- The character separates tokens and means nothing else. -/
def isBlank (c : Char) : Bool := blanks.contains c

/-- The characters between the first and the last that `drop` does not hold of. -/
def trimBy (drop : Char → Bool) (text : List Char) : List Char :=
  ((text.dropWhile drop).reverse.dropWhile drop).reverse

/-- The text without the blanks at its two ends. -/
def trim (text : List Char) : List Char := trimBy isBlank text

/-! ### Lines -/

/-- The text with a line feed at the end of every line. -/
def unifyLineEnds : List Char → List Char
  | [] => []
  | '\r' :: '\n' :: rest => '\n' :: unifyLineEnds rest
  | '\r' :: rest => '\n' :: unifyLineEnds rest
  | c :: rest => c :: unifyLineEnds rest

/-- Adds a character in front of the first line. -/
def consFirst (c : Char) : List (List Char) → List (List Char)
  | [] => [[c]]
  | line :: more => (c :: line) :: more

/-- The lines of a text whose lines end with line feeds. -/
def lines : List Char → List (List Char)
  | [] => []
  | '\n' :: rest => [] :: lines rest
  | c :: rest => consFirst c (lines rest)

/-- The lines of a text, each followed by a line feed, read as these lines. -/
theorem lines_flatten {all : List (List Char)} (whole : ∀ line ∈ all, '\n' ∉ line) :
    lines (all.map (· ++ ['\n'])).flatten = all := by
  induction all with
  | nil => rfl
  | cons line more ih =>
    have rest := ih fun other member => whole other (List.mem_cons_of_mem _ member)
    have free : '\n' ∉ line := whole line List.mem_cons_self
    clear whole ih
    simp only [List.map_cons, List.flatten_cons, List.append_assoc, List.singleton_append]
    induction line with
    | nil => rw [List.nil_append, lines, rest]
    | cons c tail ih =>
      simp only [List.mem_cons, not_or] at free
      rw [List.cons_append, lines, ih free.2, consFirst]
      exact fun feed => free.1 feed.symm

end Calculator.Text
