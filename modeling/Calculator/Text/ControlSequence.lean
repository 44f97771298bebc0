/-
**Control sequences of terminals.**

* `behindSequence?`: what follows the control sequence that a text starts with, if there is one.
* `withoutSequences`: a text with its control sequences left out.
* `withoutSequences_eq_self`: a text that holds no escape character stays as it is.

A control sequence is an escape character and an opening bracket, then digits, semicolons and
question marks in any number, then a letter of ASCII. A text is gone through once: what is a control
sequence only after another one has been left out stays.
-/

namespace Calculator.Text

/-- The character that starts a control sequence. -/
def escape : Char := '\x1b'

/-- A character that may stand between the bracket and the letter of a control sequence. -/
def isParameter (c : Char) : Bool := c.isDigit || c = ';' || c = '?'

/-- What follows the control sequence that a text starts with. -/
def behindSequence? : List Char → Option (List Char)
  | first :: '[' :: rest =>
    if first = escape then
      match rest.dropWhile isParameter with
      | letter :: after => if letter.isAlpha then some after else none
      | [] => none
    else none
  | _ => none

theorem length_behindSequence?_lt {text after : List Char}
    (found : behindSequence? text = some after) : after.length < text.length := by
  unfold behindSequence? at found
  split at found
  · next rest =>
    split at found
    · split at found
      · next letter tail equal =>
        have shorter : (rest.dropWhile isParameter).length ≤ rest.length :=
          (List.dropWhile_sublist isParameter).length_le
        rw [equal, List.length_cons] at shorter
        split at found
        · cases found
          simp only [List.length_cons]
          omega
        · cases found
      · cases found
    · cases found
  · cases found

/-- The text with its control sequences left out. -/
def withoutSequences : List Char → List Char
  | [] => []
  | c :: rest =>
    match _found : behindSequence? (c :: rest) with
    | some after => withoutSequences after
    | none => c :: withoutSequences rest
termination_by text => text.length
decreasing_by
  · exact length_behindSequence?_lt ‹_›
  · exact Nat.lt_succ_self _

/-- Only an escape character starts a control sequence. -/
theorem behindSequence?_cons_of_ne {c : Char} (plain : c ≠ escape) (rest : List Char) :
    behindSequence? (c :: rest) = none := by
  unfold behindSequence?
  split
  · next equal =>
    cases equal
    rw [if_neg plain]
  · rfl

theorem withoutSequences_eq_self {text : List Char} (plain : escape ∉ text) :
    withoutSequences text = text := by
  induction text with
  | nil => rw [withoutSequences]
  | cons c rest ih =>
    simp only [List.mem_cons, not_or] at plain
    rw [withoutSequences]
    split
    · next found =>
      rw [behindSequence?_cons_of_ne (Ne.symm plain.1)] at found
      cases found
    · rw [ih plain.2]

end Calculator.Text
