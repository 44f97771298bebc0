/-
**Parsing part by part.**

* `ReadError.moved`: the same failure further right; `Diagnostic.moved`: what is said about it.
* `Course.verdict_moved`: tokens further right come to the same, further right.
* `lastLexeme?`: the last token of a text.
* `Program.Ends.semicolon`: behind a program whose text does not end in a semicolon, a semicolon leads
  to where the next statement may start.
* `Program.parse_semicolon`: two texts with a semicolon between them are parsed one after the other.
-/

import Calculator.Proofs.Reading.Ending
import Calculator.Proofs.Reading.Verdict

namespace Calculator

open Text (isBlank)

/-! ### Failures further right -/

/-- What is said about a failure so many characters further right. -/
def Diagnostic.moved (distance : Nat) (d : Diagnostic) : Diagnostic :=
  { d with position := d.position.map (· + (distance : Int)) }

/-- The failure so many characters further right. -/
def ReadError.moved (distance : Nat) : ReadError → ReadError
  | .lexical e => .lexical (e.moved distance)
  | .syntactic e => .syntactic { e with position := e.position + distance }

/-- Further right, the same is said about a failure but for its position. -/
theorem ReadError.diagnostic_moved (distance : Nat) (e : ReadError) :
    (e.moved distance).diagnostic = e.diagnostic.moved distance := by
  cases e <;> rfl

/-- Tokens further right come to the same, further right. -/
theorem Course.verdict_moved (limit : Int) (distance : Nat) (failure : Option ScanError)
    (course : Course) (tokens : List Token) :
    course.verdict limit (failure.map (ScanError.moved distance))
        (tokens.map (Token.moved distance)) =
      (course.verdict limit failure tokens).map (Except.mapError (ReadError.moved distance)) := by
  have same : ReadError.moved distance = ReadError.placed (· + distance) := by
    funext e
    cases e <;> rfl
  rw [same]
  exact course.verdict_placed limit (· + distance) failure tokens

/-! ### Behind a program -/

/-- The last token of a text, the end of input apart. -/
def lastLexeme? (source : String) : Option Lexeme :=
  ((Scanner.ofText source).run.tokens.map Token.lexeme).dropLast.getLast?

namespace Course

variable {limit : Int} {course : Course}

/-- Only a semicolon leads to where a statement may start. -/
theorem eq_semicolon_of_shift {done : List Statement} {lexeme : Lexeme}
    (shifted : course.move limit lexeme = .shift (.between done)) :
    lexeme = .symbol .semicolon := by
  obtain ⟨done', target, place, stands⟩ := course.exists_stands
  rcases stands.move_cases lexeme with inside | ⟨move, opens, same⟩
  · rw [inside] at shifted
    rcases insideMove_eq_shift shifted with ⟨place', -, other⟩ | ⟨level, factor, -, semicolon, -⟩
    · cases other
    · exact semicolon
  · rw [same] at shifted
    cases opens <;> cases shifted

/-- Behind statements a semicolon comes last where the next one may start. -/
theorem exists_of_follow_between {done : List Statement} {lexemes : List Lexeme}
    (reached : follow (move limit) (.between []) lexemes = some (.between done))
    (nonempty : done ≠ []) : ∃ front, lexemes = front ++ [.symbol .semicolon] := by
  rcases List.eq_nil_or_concat lexemes with rfl | ⟨front, lexeme, rfl⟩
  · cases reached
    exact absurd rfl nonempty
  · rw [List.concat_eq_append] at reached ⊢
    obtain ⟨middle, -, rest⟩ := follow_append_eq_some reached
    obtain ⟨next, shifted, here⟩ := follow_cons_eq_some rest
    cases here
    exact ⟨front, congrArg _ (congrArg (· :: []) (eq_semicolon_of_shift shifted))⟩

/-- Where the end of input ends a program, a semicolon leads to where the next statement may start,
unless that is where the course is. -/
theorem move_semicolon_of_stop {program : Program}
    (stopped : course.move limit .endOfInput = .stop program) :
    course = .between program.statements.reverse ∨
      course.move limit (.symbol .semicolon) = .shift (.between program.statements.reverse) := by
  obtain ⟨done, target, place, stands⟩ := course.exists_stands
  rcases stands.move_cases .endOfInput with inside | ⟨move, opens, same⟩
  · rw [inside] at stopped
    obtain ⟨level, factor, rfl, -, rfl⟩ := insideMove_eq_stop stopped
    have ends : (Lexeme.symbol .semicolon).EndsClause := True.intro
    right
    rw [List.reverse_reverse]
    exact stands.finish ends
  · rw [same] at stopped
    cases opens
    cases stopped
    left
    rw [List.reverse_reverse]

end Course

section Behind

variable {limit : Int} {first : String} {program : Program}

/-- **Behind a program whose text does not end in a semicolon, a semicolon leads to where the next
statement may start.** -/
theorem Program.Ends.semicolon (ends : Program.Ends limit first (.ok program))
    (nonempty : program.statements ≠ [])
    (unclosed : lastLexeme? first ≠ some (.symbol .semicolon)) :
    ∃ words, Munched first.toList 0 words first.length ∧
      follow (Course.move limit) (.between [])
          ((words.map Word.token).map Token.lexeme ++ [.symbol .semicolon]) =
        some ((Course.between []).after program.statements) := by
  cases ends with
  | @accepted front last course _ fine tokens lastEnds reached stopped =>
    obtain ⟨words, munched, whole⟩ :=
      exists_words_of_scanText (scanText_eq_ok_iff.mpr ⟨fine, rfl⟩)
    obtain ⟨rfl, -⟩ := List.append_inj' (tokens.symm.trans whole) rfl
    refine ⟨words, munched, ?_⟩
    rcases Course.move_semicolon_of_stop stopped with rfl | shifted
    · have done : program.statements.reverse ≠ [] := mt List.reverse_eq_nil_iff.mp nonempty
      obtain ⟨body, closed⟩ := Course.exists_of_follow_between reached done
      refine absurd ?_ unclosed
      rw [lastLexeme?, tokens, List.map_append, List.map_singleton, List.dropLast_concat, closed,
        List.getLast?_concat]
    · rw [follow_append reached, follow_cons shifted]
      rfl

/-- **A program, a semicolon and another text are parsed to the program, and to what the other text is
parsed to behind it, further right.** -/
theorem Program.parse_append_semicolon (parsed : parse limit first = .ok program)
    (nonempty : program.statements ≠ [])
    (unclosed : lastLexeme? first ≠ some (.symbol .semicolon)) (second : String) :
    parse limit (first ++ ";" ++ second) =
      ((parse limit second).mapError (ReadError.moved (first.length + 1))).map
        (after program.statements) := by
  obtain ⟨words, munched, reached⟩ := (parsed ▸ parse_ends limit first).semicolon nonempty unclosed
  obtain ⟨tokens, failure⟩ := run_append_symbol munched .semicolon second
  have whole : first ++ String.singleton Symbol.semicolon.char ++ second = first ++ ";" ++ second := rfl
  rw [whole] at tokens failure
  have front : follow (Course.move limit) (.between [])
      ((words.map Word.token ++ [Token.mk (.symbol .semicolon) first.length]).map Token.lexeme) =
        some ((Course.between []).after program.statements) := by
    rw [List.map_append]
    exact reached
  refine Option.some.inj ?_
  rw [parse_eq_verdict, tokens, failure, List.append_cons, Course.verdict_append _ front,
    Course.verdict_after, Course.verdict_moved, ← parse_eq_verdict]
  rfl

/-- A blank text is an empty program. -/
theorem Program.parse_blank (limit : Int) {source : String}
    (blank : ∀ c ∈ source.toList, isBlank c = true) : parse limit source = .ok ⟨[]⟩ := by
  refine Option.some.inj ?_
  rw [parse_eq_verdict, Scanner.ofText, Scanner.run_of_end (Scanner.next_of_blank 0 blank) rfl]
  rfl

/-- **Two texts with a semicolon between them are parsed one after the other.** Behind a program that
has a statement and whose text does not end in a semicolon, the statements of another text follow; if
the other text cannot be parsed, it fails with the same failure, further right by the first text and
the semicolon; if it is blank, nothing follows. -/
theorem Program.parse_semicolon (parsed : parse limit first = .ok program)
    (nonempty : program.statements ≠ [])
    (unclosed : lastLexeme? first ≠ some (.symbol .semicolon)) (second : String) :
    (∀ more, parse limit second = .ok more →
      parse limit (first ++ ";" ++ second) = .ok ⟨program.statements ++ more.statements⟩) ∧
    (∀ e, parse limit second = .error e →
      parse limit (first ++ ";" ++ second) = .error (e.moved (first.length + 1)) ∧
      (e.moved (first.length + 1)).diagnostic = e.diagnostic.moved (first.length + 1)) ∧
    ((∀ c ∈ second.toList, isBlank c = true) →
      parse limit (first ++ ";" ++ second) = .ok program) := by
  have whole := parse_append_semicolon parsed nonempty unclosed second
  refine ⟨fun more read => ?_, fun e failed => ⟨?_, e.diagnostic_moved _⟩, fun blank => ?_⟩
  · rw [whole, read]
    rfl
  · rw [whole, failed]
    rfl
  · have same : after program.statements ⟨[]⟩ = program := congrArg mk (List.append_nil _)
    rw [whole, parse_blank limit blank]
    exact congrArg Except.ok same

/-- A parenthesis too many behind a semicolon is reported two characters further right than without the
statement and the semicolon before it. -/
theorem Program.parse_semicolon_refused :
    parse 0 "a" = .ok ⟨[.expression (.reference "a")]⟩ ∧
      lastLexeme? "a" = some (.identifier "a") ∧
      parse 0 "b)" = .error (.syntactic ⟨.statementEnd, .symbol .rightParen, 1, none⟩) ∧
      parse 0 ("a" ++ ";" ++ "b)") =
        .error (.syntactic ⟨.statementEnd, .symbol .rightParen, 3, none⟩) := by
  have parsed : parse 0 "a" = .ok ⟨[.expression (.reference "a")]⟩ := by
    have tokens : (Scanner.ofText "a").run.tokens = [⟨.identifier "a", 0⟩, ⟨.endOfInput, 1⟩] := by
      decide +kernel
    have failure : (Scanner.ofText "a").run.failure = none := by decide +kernel
    refine Option.some.inj ?_
    rw [parse_eq_verdict, tokens, failure]
    rfl
  have last : lastLexeme? "a" = some (.identifier "a") := by decide +kernel
  have failed : parse 0 "b)" = .error (.syntactic ⟨.statementEnd, .symbol .rightParen, 1, none⟩) := by
    have tokens : (Scanner.ofText "b)").run.tokens =
        [⟨.identifier "b", 0⟩, ⟨.symbol .rightParen, 1⟩, ⟨.endOfInput, 2⟩] := by decide +kernel
    have failure : (Scanner.ofText "b)").run.failure = none := by decide +kernel
    refine Option.some.inj ?_
    rw [parse_eq_verdict, tokens, failure]
    rfl
  have unclosed : lastLexeme? "a" ≠ some (.symbol .semicolon) := by
    rw [last]
    decide
  have behind := parse_semicolon parsed (List.cons_ne_nil _ _) unclosed "b)"
  exact ⟨parsed, last, failed, (behind.2.1 _ failed).1⟩

end Behind

end Calculator
