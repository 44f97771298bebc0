/-
**The first error wins, at its place.**

* `FirstOffence`: a token of a text is the first that begins no sentence with the tokens before it.
* `Program.parse_first_error`: where there is such a token, parsing stops at it, with nothing behind it
  scanned; otherwise a failure of the scanner is reported; otherwise there is a program.

A failure of the scanner further right is thus never reported instead of a token that does not fit.
-/

import Calculator.Proofs.Reading.Depth
import Calculator.Proofs.Reading.Ending

namespace Calculator

/-- The tokens before an index as the grammar sees them. -/
def lexemesBefore (tokens : List Token) (index : Nat) : List Lexeme :=
  (tokens.take index).map Token.lexeme

/-- The token at the index is the first that begins no sentence with those before it. -/
structure FirstOffence (limit : Int) (tokens : List Token) (index : Nat) (token : Token) : Prop where
  here : tokens[index]? = some token
  before : ∀ earlier < index, Viable limit (lexemesBefore tokens (earlier + 1))
  offends : ¬ Viable limit (lexemesBefore tokens (index + 1))

/-! ### Beginnings -/

/-- Fewer tokens begin the same sentence. -/
theorem Viable.of_shorter {limit : Int} {front whole : List Lexeme} (viable : Viable limit whole)
    (shorter : front <+: whole) : Viable limit front := by
  obtain ⟨sentence, within, begins⟩ := viable
  exact ⟨sentence, within, shorter.trans begins⟩

section Split

variable {front back : List Token} {token : Token}

theorem lexemesBefore_split {index : Nat} (here : index ≤ front.length) :
    lexemesBefore (front ++ back) index <+: front.map Token.lexeme := by
  rw [lexemesBefore, List.take_append_of_le_length here]
  exact (List.take_prefix index front).map Token.lexeme

theorem lexemesBefore_length : lexemesBefore (front ++ back) front.length = front.map Token.lexeme := by
  rw [lexemesBefore, List.take_left]

theorem lexemesBefore_succ_length :
    lexemesBefore (front ++ token :: back) (front.length + 1) =
      front.map Token.lexeme ++ [token.lexeme] := by
  have longer : front ++ token :: back = (front ++ [token]) ++ back := List.append_cons ..
  have length : (front ++ [token]).length = front.length + 1 := by
    rw [List.length_append, List.length_singleton]
  rw [longer, ← length, lexemesBefore_length, List.map_append, List.map_singleton]

end Split

/-- Tokens that are viable as a whole have no first offence. -/
theorem Viable.not_firstOffence {limit : Int} {tokens : List Token}
    (viable : Viable limit (tokens.map Token.lexeme)) (index : Nat) (token : Token) :
    ¬ FirstOffence limit tokens index token := by
  intro offence
  refine offence.offends (viable.of_shorter ?_)
  exact (List.take_prefix (index + 1) tokens).map Token.lexeme

section Refused

variable {limit : Int} {front : List Token} (back : List Token) {token : Token} {course : Course}
  {expected : Expectation} {depthLimit : Option Int}
  (reached : follow (Course.move limit) (.between []) (front.map Token.lexeme) = some course)
  (refused : course.move limit token.lexeme = .refuse expected depthLimit)

include reached refused

/-- A token that is refused is the first offence. -/
theorem firstOffence_of_refuse :
    FirstOffence limit (front ++ token :: back) front.length token where
  here := by rw [List.getElem?_append_right (Nat.le_refl _), Nat.sub_self, List.getElem?_cons_zero]
  before earlier sooner :=
    (viable_iff.mpr (.inl ⟨course, reached⟩)).of_shorter (lexemesBefore_split sooner)
  offends := by
    rw [lexemesBefore_succ_length]
    exact not_viable_of_refuse reached refused

/-- There is no other. -/
theorem FirstOffence.eq_of_refuse {index : Nat} {other : Token}
    (offence : FirstOffence limit (front ++ token :: back) index other) :
    index = front.length ∧ other = token := by
  have first := firstOffence_of_refuse back reached refused
  have same : index = front.length := by
    rcases Nat.lt_trichotomy index front.length with sooner | same | later
    · exact absurd (first.before index sooner) offence.offends
    · exact same
    · exact absurd (offence.before _ later) first.offends
  subst same
  exact ⟨rfl, Option.some.inj (offence.here.symm.trans first.here)⟩

end Refused

/-! ### Parsing -/

/-- **The first error wins, at its place.** A token that begins no sentence with those before it is
reported where it stands, with nothing behind it scanned, and for its depth exactly if it is too deep;
if there is none, a failure of the scanner is reported; if there is none either, there is a program. -/
theorem Program.parse_first_error (limit : Int) (source : String) :
    (∀ index token, FirstOffence limit (Scanner.ofText source).run.tokens index token →
      ∃ error, parse limit source = .error (.syntactic error) ∧
        Ends.Refusal limit source ((Scanner.ofText source).run.tokens.take index) token error ∧
        (error.depthLimit = some limit ↔
          TooDeep limit (lexemesBefore (Scanner.ofText source).run.tokens index) token.lexeme) ∧
        (error.depthLimit = none ↔
          ¬ TooDeep limit (lexemesBefore (Scanner.ofText source).run.tokens index) token.lexeme)) ∧
    ((∀ index token, ¬ FirstOffence limit (Scanner.ofText source).run.tokens index token) →
      match (Scanner.ofText source).run.failure with
      | some e => parse limit source = .error (.lexical e)
      | none => ∃ program, parse limit source = .ok program) := by
  have ends := parse_ends limit source
  generalize parse limit source = result at ends ⊢
  cases ends with
  | lexical failed reached =>
    have none := (viable_iff.mpr (.inl ⟨_, reached⟩)).not_firstOffence
    refine ⟨fun index token offence => absurd offence (none index token), fun _ => ?_⟩
    rw [failed]
  | @accepted front last _ _ fine tokens ends reached stopped =>
    have viable : Viable limit ((Scanner.ofText source).run.tokens.map Token.lexeme) := by
      rw [tokens, List.map_append, List.map_singleton, ends]
      exact viable_of_stop reached stopped
    have none := viable.not_firstOffence
    refine ⟨fun index token offence => absurd offence (none index token), fun _ => ?_⟩
    rw [fine]
    exact ⟨_, rfl⟩
  | @refused front back token course error tokens reached refused refusal =>
    rw [tokens]
    refine ⟨fun index other offence => ?_, fun none => ?_⟩
    · obtain ⟨rfl, rfl⟩ := offence.eq_of_refuse back reached refused
      obtain ⟨tooDeep, fine⟩ := Course.refusal_tooDeep_iff reached refused
      refine ⟨error, rfl, ?_, ?_⟩
      · rwa [List.take_left]
      · rw [lexemesBefore_length]
        exact ⟨tooDeep, fine⟩
    · exact absurd (firstOffence_of_refuse back reached refused) (none _ _)

end Calculator
