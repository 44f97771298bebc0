/-
**The canonical text, parsed again.**

* `Program.spellable_of_parse`: the numbers and names of a program that was parsed can be written.
* `Program.parse_canonical`: under a limit that its heights keep to, the canonical text of such a program
  is parsed to the program again; under any other it is refused at the first parenthesis too deep.
* `Phrase.flatSum`: a sum without parentheses, which nests as deep as it is long.
* `Program.parse_text`: the two together.
-/

import Calculator.Proofs.Reading.Limit
import Calculator.Proofs.Syntax.Canonical

namespace Calculator

namespace Program

/-- The numbers and names of a program that was parsed can be written. -/
theorem spellable_of_parse {limit : Int} {source : String} {program : Program}
    (parsed : parse limit source = .ok program) : Spellable program.content := by
  obtain ⟨tokens, scanned, sentence, spelling⟩ :=
    Ends.exists_spelling (parsed ▸ parse_ends limit source)
  obtain ⟨-, rfl⟩ := scanText_eq_ok_iff.mp scanned
  intro lexeme member
  rw [spelling.content, List.mem_filter] at member
  obtain ⟨among, isContent⟩ := member
  obtain ⟨token, here, rfl⟩ := List.mem_map.mp among
  refine Scanner.exists_writes here fun last => ?_
  rw [last] at isContent
  cases isContent

/-- **The canonical text is parsed to the program, as far as the limit allows.** -/
theorem parse_canonical (limit : Int) {program : Program} (spellable : Spellable program.content) :
    ((∀ statement ∈ program.statements, statement.height ≤ limit.toNat) ∧
      parse limit program.text = .ok program) ∨
    ((∃ statement ∈ program.statements, limit.toNat < statement.height) ∧
      ∃ position, firstTooDeep? limit program.text = some position ∧
        parse limit program.text = .error (nestingError limit position)) := by
  obtain ⟨tokens, scanned, lexemes⟩ := scanText_text spellable
  obtain ⟨fine, rfl⟩ := scanText_eq_ok_iff.mp scanned
  rcases (parse_ends limit program.text).of_sentence scanned lexemes with
    ⟨within, parsed⟩ | ⟨beyond, position, found, refused⟩
  · rw [program.program_sentence] at parsed
    exact .inl ⟨program.within_sentence_iff.mp within, parsed⟩
  · refine .inr ⟨?_, position, ?_, refused⟩
    · rw [within_sentence_iff] at beyond
      refine Decidable.byContradiction fun none => beyond fun statement member => ?_
      exact Nat.le_of_not_lt fun higher => none ⟨statement, member, higher⟩
    · rw [← found]
      exact tooDeepAt?_run fine 0

end Program

/-! ### Sums without parentheses -/

namespace Phrase

/-- The sum of a name with itself, with so many signs. -/
def flatSum : Nat → Phrase .expression
  | 0 => (reference "a").asExpression
  | count + 1 => .more .terms (flatSum count) .add rfl (.first .factors (.reference "a"))

/-- The sum as it may be written without blanks. -/
def flatSumText : Nat → List Char
  | 0 => ['a']
  | count + 1 => flatSumText count ++ ['+', 'a']

theorem nesting_flatSum (count : Nat) : (flatSum count).nesting = 0 := by
  induction count with
  | zero => rfl
  | succ count ih =>
    show max (flatSum count).nesting 0 = 0
    rw [ih, Nat.max_self]

/-- The sum nests as deep as it is long. -/
theorem height_flatSum (count : Nat) : (flatSum count).tree.height = count := by
  induction count with
  | zero => rfl
  | succ count ih =>
    show max (flatSum count).tree.height 0 + 1 = count + 1
    rw [ih, Nat.max_zero]

theorem leftParen_not_mem_flatSumText (count : Nat) : '(' ∉ flatSumText count := by
  induction count with
  | zero => decide
  | succ count ih =>
    rw [flatSumText, List.mem_append]
    exact fun member => member.elim ih (by decide)

theorem written_flatSum (count : Nat) {lexemes : List Lexeme} {rest : List Char}
    (apart : ∀ c ∈ rest.head?, Scanner.isNameChar c = false) (more : Written lexemes rest) :
    Written ((flatSum count).lexemes ++ lexemes) (flatSumText count ++ rest) := by
  have name : (Lexeme.identifier "a").Writes ['a'] := .identifier rfl (List.forall_mem_nil _)
  have last : Written (.identifier "a" :: lexemes) ('a' :: rest) := more.token name apart
  induction count generalizing lexemes rest with
  | zero => exact last
  | succ count ih =>
    have sign := last.symbol .plus
    have whole := ih (by rintro c ⟨⟩; rfl) sign (sign.token name (by rintro c ⟨⟩; rfl))
    show Written ((flatSum count).lexemes ++ [.symbol .plus, .identifier "a"] ++ lexemes) _
    rw [flatSumText, List.append_assoc, List.append_assoc]
    exact whole

end Phrase

namespace Program

/-- A sum without parentheses is parsed under every limit. -/
theorem parse_flatSum (limit : Int) (count : Nat) :
    parse limit (String.ofList (Phrase.flatSumText count)) =
      .ok ⟨[.expression (Phrase.flatSum count).tree]⟩ := by
  let sentence : Sentence := .clauses (.expression (Phrase.flatSum count)) [] false
  have within : sentence.Within limit := by
    refine List.forall_mem_singleton.mpr ?_
    rw [Clause.nesting, Phrase.nesting_flatSum]
    exact Nat.zero_le _
  have apart : ∀ c ∈ ([] : List Char).head?, Scanner.isNameChar c = false :=
    fun _ none => nomatch none
  have written := Phrase.written_flatSum count apart .empty
  rw [List.append_nil, List.append_nil, ← @String.toList_ofList (Phrase.flatSumText count)] at written
  obtain ⟨tokens, scanned, same⟩ := written.scanText_eq_ok
  have lexemes : sentence.lexemes = tokens.map Token.lexeme := by
    rw [same]
    show (Phrase.flatSum count).lexemes ++ [] ++ [] ++ [.endOfInput] = _
    rw [List.append_nil, List.append_nil]
  exact (parse_ends limit _).eq_ok scanned lexemes within

/-- **The canonical text of a program that was parsed is parsed to the same program, exactly as far as
the limit allows.** Under a limit that the heights of its statements keep to the program comes back;
under any other the text is refused at its first parenthesis that nests too deep; so text that is
parsed again is written as before. And a sum without parentheses may be parsed under a limit that
refuses its canonical text. -/
theorem parse_text (limit : Nat) :
    (∀ (given : Int) (source : String) (program : Program), parse given source = .ok program →
      ((∀ statement ∈ program.statements, statement.height ≤ limit) →
        parse limit program.text = .ok program) ∧
      ((∃ statement ∈ program.statements, limit < statement.height) →
        ∃ position, firstTooDeep? limit program.text = some position ∧
          parse limit program.text = .error (nestingError limit position)) ∧
      ∀ again, parse limit program.text = .ok again → again.text = program.text) ∧
    ∃ source program position, '(' ∉ source.toList ∧ parse limit source = .ok program ∧
      parse limit program.text = .error (nestingError limit position) := by
  refine ⟨fun given source program parsed => ?_, ?_⟩
  · rcases parse_canonical limit (spellable_of_parse parsed) with
      ⟨fits, same⟩ | ⟨⟨statement, member, higher⟩, position, found, refused⟩
    · refine ⟨fun _ => same, ?_, fun again parsedAgain => ?_⟩
      · rintro ⟨statement, member, higher⟩
        exact absurd (fits statement member) (Nat.not_le_of_lt higher)
      · rw [same] at parsedAgain
        cases parsedAgain
        rfl
    · refine ⟨fun fits => ?_, fun _ => ⟨position, found, refused⟩, fun again parsedAgain => ?_⟩
      · exact absurd (fits statement member) (Nat.not_le_of_lt higher)
      · rw [refused] at parsedAgain
        cases parsedAgain
  · have parsed := parse_flatSum limit (limit + 1)
    rcases parse_canonical limit (spellable_of_parse parsed) with
      ⟨fits, -⟩ | ⟨-, position, -, refused⟩
    · have low := fits _ List.mem_cons_self
      rw [Statement.height, Phrase.height_flatSum] at low
      exact absurd low (Nat.not_succ_le_self _)
    · refine ⟨_, _, position, ?_, parsed, refused⟩
      rw [String.toList_ofList]
      exact Phrase.leftParen_not_mem_flatSumText _

end Program

end Calculator
