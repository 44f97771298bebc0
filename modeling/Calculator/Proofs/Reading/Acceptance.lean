/-
**Parsing is derivation.**

* `Program.Spelling`: a derivation of tokens, and the program that it means; `Spelling.unique`: there is no
  other; `Spelling.content`: every number, name and operator is in the program once.
* `Program.parse_eq_ok_iff`: a text is parsed to a program if and only if it can be scanned to its
  end and its tokens spell that program, with parentheses nested no deeper than the limit.
-/

import Calculator.Proofs.Grammar.Unique
import Calculator.Proofs.Reading.Ending

namespace Calculator

namespace Program

/-- The tokens are those of the sentence, which nests no deeper than the limit and means the program. -/
structure Spelling (limit : Int) (lexemes : List Lexeme) (program : Program)
    (sentence : Sentence) : Prop where
  spells : sentence.lexemes = lexemes
  within : sentence.Within limit
  means : sentence.program = program

namespace Spelling

variable {limit : Int} {lexemes : List Lexeme} {program : Program} {sentence : Sentence}

theorem of_sentence (within : sentence.Within limit) :
    Spelling limit sentence.lexemes sentence.program sentence := ⟨rfl, within, rfl⟩

/-- Tokens are those of one sentence and no other. -/
theorem unique (spelling : Spelling limit lexemes program sentence) (other : Sentence)
    (same : other.lexemes = lexemes) : other = sentence :=
  Sentence.lexemes_inj (same.trans spelling.spells.symm)

/-- Every number, name and operator among the tokens is in the program, once and in its place. -/
theorem content (spelling : Spelling limit lexemes program sentence) :
    program.content = lexemes.filter Lexeme.isContent := by
  rw [← spelling.means, ← spelling.spells, sentence.content_program]

end Spelling

/-- A program that a text ends with is spelled by the tokens of the text. -/
theorem Ends.exists_spelling {limit : Int} {source : String} {program : Program}
    (ends : Ends limit source (.ok program)) :
    ∃ tokens, scanText source = .ok tokens ∧
      ∃ sentence, Spelling limit (tokens.map Token.lexeme) program sentence := by
  cases ends with
  | accepted fine tokens last reached stopped =>
    obtain ⟨sentence, lexemes, within, rfl⟩ := accepts_iff.mp ⟨_, reached, stopped⟩
    have spelled : ((Scanner.ofText source).run.tokens).map Token.lexeme = sentence.lexemes := by
      rw [tokens, List.map_append, List.map_singleton, last, lexemes]
    refine ⟨_, scanText_eq_ok_iff.mpr ⟨fine, rfl⟩, sentence, ?_⟩
    rw [spelled]
    exact .of_sentence within

/-- A text whose tokens are those of a sentence cannot end otherwise. -/
theorem Ends.eq_ok {limit : Int} {source : String} {result : Except ReadError Program}
    {tokens : List Token} {sentence : Sentence} (ends : Ends limit source result)
    (scanned : scanText source = .ok tokens)
    (lexemes : sentence.lexemes = tokens.map Token.lexeme) (within : sentence.Within limit) :
    result = .ok sentence.program := by
  obtain ⟨fine, rfl⟩ := scanText_eq_ok_iff.mp scanned
  cases ends with
  | lexical failed =>
    rw [fine] at failed
    cases failed
  | accepted _ tokens last reached stopped =>
    obtain ⟨other, lexemes', -, rfl⟩ := accepts_iff.mp ⟨_, reached, stopped⟩
    have same : other.lexemes = sentence.lexemes := by
      rw [lexemes, tokens, lexemes', List.map_append, List.map_singleton, last]
    rw [Sentence.lexemes_inj same]
  | @refused front back token _ _ tokens reached refused =>
    refine absurd ?_ (not_viable_of_refuse reached refused)
    refine ⟨sentence, within, back.map Token.lexeme, ?_⟩
    rw [lexemes, tokens, List.map_append, List.map_cons, List.append_assoc, List.singleton_append]

/-- **A text is parsed to a program if and only if it can be scanned to its end and its tokens spell
the program, with parentheses nested no deeper than the limit.** Tokens are those of one sentence at most,
and every number, name and operator among them is in the program, once and in its place. A term or an
expression is its first operand with an operator and an operand for each round behind it, and these are
grouped from the left. -/
theorem parse_eq_ok_iff (limit : Int) (source : String) (program : Program) :
    (parse limit source = .ok program ↔
      ∃ tokens, scanText source = .ok tokens ∧
        ∃ sentence, Spelling limit (tokens.map Token.lexeme) program sentence) ∧
    (∀ lexemes sentence, Spelling limit lexemes program sentence →
      (∀ other : Sentence, other.lexemes = lexemes → other = sentence) ∧
      program.content = lexemes.filter Lexeme.isContent) ∧
    (∀ (operand level : Goal), Operands operand level → ∀ phrase : Phrase level,
      ∃ (start : Phrase operand) (rounds : List (Round operand level)),
        phrase.lexemes = start.lexemes ++ rounds.flatMap Round.lexemes ∧
        phrase.tree = rounds.foldl Round.onto start.tree) := by
  refine ⟨⟨fun parsed => ?_, ?_⟩, fun _ _ spelling => ⟨spelling.unique, spelling.content⟩,
    fun _ _ operands phrase => phrase.exists_rounds operands⟩
  · exact Ends.exists_spelling (parsed ▸ parse_ends limit source)
  · rintro ⟨tokens, scanned, sentence, spelling⟩
    rw [← spelling.means]
    exact (parse_ends limit source).eq_ok scanned spelling.spells spelling.within

end Program

end Calculator
