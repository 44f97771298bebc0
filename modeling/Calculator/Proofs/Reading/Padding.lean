/-
**Blanks around a text.**

* `Text.leading`, `Text.trailing`: the blanks that trimming takes away; with what it leaves they are the
  text.
* `Text.behindPadding`: where a character of a text stands once there are blanks around the text.
* `Scanner.run_padded`: blanks around a text move its tokens, and change nothing else.
* `Program.parse_padded`, `runText_padded`: so they move the position that a failure tells, and change
  nothing else.
* `Program.parse_eq_nil_iff`: a text has no statements if and only if it is blank.

The end of input stands behind the last blank, so it is moved by the blanks on both sides; every other
token is moved by those in front alone.
-/

import Calculator.Proofs.Reading.Verdict
import Calculator.Report

namespace Calculator

open Text (isBlank)

/-! ### Trimming -/

namespace Text

/-- The blanks that a text starts with. -/
def leading (text : List Char) : List Char := text.takeWhile isBlank

/-- The blanks that a text ends with, those that it starts with apart. -/
def trailing (text : List Char) : List Char :=
  ((text.dropWhile isBlank).reverse.takeWhile isBlank).reverse

theorem isBlank_of_mem_leading {text : List Char} : ∀ c ∈ leading text, isBlank c = true :=
  fun _ member => List.all_eq_true.mp List.all_takeWhile _ member

theorem isBlank_of_mem_trailing {text : List Char} : ∀ c ∈ trailing text, isBlank c = true :=
  fun _ member => List.all_eq_true.mp List.all_takeWhile _ (List.mem_reverse.mp member)

/-- **A text is what trimming leaves, between the blanks that it takes away.** -/
theorem leading_append_trim_append_trailing (text : List Char) :
    leading text ++ trim text ++ trailing text = text := by
  rw [leading, trim, trimBy, trailing, List.append_assoc, ← List.reverse_append,
    List.takeWhile_append_dropWhile, List.reverse_reverse, List.takeWhile_append_dropWhile]

/-- Where the character at a position of a text so long stands behind `lead` blanks; the end of the text
is moved by the `trail` blanks behind it also. -/
def behindPadding (lead trail length position : Nat) : Nat :=
  (if position < length then position else position + trail) + lead

theorem behindPadding_of_lt {lead trail length position : Nat} (inside : position < length) :
    behindPadding lead trail length position = position + lead := by
  rw [behindPadding, if_pos inside]

theorem behindPadding_length (lead trail length : Nat) :
    behindPadding lead trail length length = length + trail + lead := by
  rw [behindPadding, if_neg (Nat.lt_irrefl _)]

end Text

/-! ### Scanning -/

section Scanning

variable {lead trail : List Char}

/-- Blanks in front of a text move its tokens. -/
theorem Scanner.run_before (blank : ∀ c ∈ lead, isBlank c = true) (text : List Char) :
    (Scanner.mk 0 (lead ++ text)).run.tokens =
        (Scanner.mk 0 text).run.tokens.map (Token.moved lead.length) ∧
      (Scanner.mk 0 (lead ++ text)).run.failure =
        (Scanner.mk 0 text).run.failure.map (ScanError.moved lead.length) := by
  rw [run_congr (next_append 0 blank)]
  exact run_moved lead.length ⟨0, text⟩

/-- No name goes on with a blank. -/
theorem Scanner.isNameChar_of_head_blank (blank : ∀ c ∈ trail, isBlank c = true) :
    ∀ c ∈ trail.head?, isNameChar c = false := by
  intro c first
  refine Bool.eq_false_iff.mpr fun name => ?_
  have white := blank c (List.mem_of_head? first)
  rw [isBlank_of_isNameChar name] at white
  cases white

variable {text : List Char} {words : List Word}

/-- A text that is taken up to its end is scanned to its words, with blanks behind it or without. -/
theorem Munched.run_ended (munched : Munched text 0 words text.length)
    (blank : ∀ c ∈ trail, isBlank c = true) :
    (Scanner.mk 0 (text ++ trail)).run.tokens =
        words.map Word.token ++ [⟨.endOfInput, text.length + trail.length⟩] ∧
      (Scanner.mk 0 (text ++ trail)).run.failure = none := by
  have stops := Scanner.isNameChar_of_head_blank blank
  have longer := munched.append (Nat.le_refl _) fun word _ =>
    (Lexeme.apart_of_stops stops : word.token.lexeme.Apart trail).ends
  have bound : text.length ≤ (text ++ trail).length := by
    rw [List.length_append]
    exact Nat.le_add_right ..
  have here : Scanner.atOffset (text ++ trail) text.length = ⟨text.length, trail⟩ := by
    rw [Scanner.atOffset, List.drop_left]
  obtain ⟨tokens, failure⟩ := longer.run_eq (Nat.zero_le _) bound
  rw [here, Scanner.run_of_end (Scanner.next_of_blank text.length blank) rfl] at tokens failure
  exact ⟨tokens, failure⟩

/-- A text that is taken up to an obstacle is scanned to its words, and fails there. -/
theorem Munched.run_stuck {e : ScanError} (munched : Munched text 0 words e.position)
    (stuck : Obstacle text e) :
    (Scanner.mk 0 text).run.tokens = words.map Word.token ∧
      (Scanner.mk 0 text).run.failure = some e := by
  obtain ⟨after, read⟩ := Scanner.next_of_obstacle stuck
  obtain ⟨tokens, failure⟩ := munched.run_eq (Nat.zero_le _) (Nat.le_of_lt stuck.position_lt)
  rw [Scanner.run_of_error read] at tokens failure
  exact ⟨tokens.trans (List.append_nil _), failure⟩

/-- Blanks behind a text leave its words where they are. -/
theorem Munched.map_placed {stop : Nat} (munched : Munched text 0 words stop) (trail : Nat) :
    (words.map Word.token).map (Token.placed (Text.behindPadding 0 trail text.length)) =
      words.map Word.token := by
  rw [List.map_map]
  refine List.map_congr_left fun word member => ?_
  have stands := munched.stands word member
  have inside : word.token.position < text.length :=
    Nat.lt_of_lt_of_le stands.start_lt_stop stands.stop_le
  rw [Function.comp_apply, Token.placed, Text.behindPadding_of_lt inside]
  rfl

/-- Blanks behind a text move its end. -/
theorem Scanner.run_behind (blank : ∀ c ∈ trail, isBlank c = true) (text : List Char) :
    let place := Text.behindPadding 0 trail.length text.length
    (Scanner.mk 0 (text ++ trail)).run.tokens =
        (Scanner.mk 0 text).run.tokens.map (Token.placed place) ∧
      (Scanner.mk 0 (text ++ trail)).run.failure =
        (Scanner.mk 0 text).run.failure.map (ScanError.placed place) := by
  intro place
  rcases exists_munched text 0 (Nat.zero_le _) with
    ⟨words, munched⟩ | ⟨e, stuck, -, words, munched⟩
  · obtain ⟨tokens, failure⟩ := munched.run_ended (List.forall_mem_nil _)
    obtain ⟨tokens', failure'⟩ := munched.run_ended blank
    have last : place text.length = text.length + trail.length := Text.behindPadding_length ..
    rw [List.append_nil] at tokens failure
    rw [tokens, failure, tokens', failure', List.map_append, munched.map_placed, List.map_singleton,
      Token.placed, List.length_nil, Nat.add_zero, last]
    exact ⟨rfl, rfl⟩
  · have stops : ∀ d ∈ trail.head?, d.isDigit = false :=
      isDigit_of_not_isNameChar (isNameChar_of_head_blank blank)
    have longer := munched.append (Nat.le_of_lt stuck.position_lt) fun word _ =>
      (Lexeme.apart_of_stops (isNameChar_of_head_blank blank) : word.token.lexeme.Apart trail).ends
    obtain ⟨tokens, failure⟩ := munched.run_stuck stuck
    obtain ⟨tokens', failure'⟩ := longer.run_stuck (stuck.append stops)
    have here : place e.position = e.position := Text.behindPadding_of_lt stuck.position_lt
    rw [tokens, failure, tokens', failure', munched.map_placed, Option.map_some, ScanError.placed, here]
    exact ⟨rfl, rfl⟩

/-- **Blanks around a text move its tokens, and change nothing else.** -/
theorem Scanner.run_padded (before : ∀ c ∈ lead, isBlank c = true)
    (behind : ∀ c ∈ trail, isBlank c = true) (text : List Char) :
    let place := Text.behindPadding lead.length trail.length text.length
    (Scanner.mk 0 (lead ++ text ++ trail)).run.tokens =
        (Scanner.mk 0 text).run.tokens.map (Token.placed place) ∧
      (Scanner.mk 0 (lead ++ text ++ trail)).run.failure =
        (Scanner.mk 0 text).run.failure.map (ScanError.placed place) := by
  obtain ⟨tokens, failure⟩ := run_behind behind text
  obtain ⟨tokens', failure'⟩ := run_before before (text ++ trail)
  rw [List.append_assoc, tokens', failure', tokens, failure, List.map_map, Option.map_map]
  exact ⟨rfl, rfl⟩

end Scanning

/-! ### Reading and running -/

/-- What is said about a failure where `place` takes it. -/
def Diagnostic.placed (place : Nat → Nat) (d : Diagnostic) : Diagnostic :=
  { d with position := d.position.map fun position => (place position.toNat : Int) }

/-- At another place, the same is said about a failure but for its position. -/
theorem ReadError.diagnostic_placed (place : Nat → Nat) (e : ReadError) :
    (e.placed place).diagnostic = e.diagnostic.placed place := by
  cases e <;> rfl

/-- The report of a text whose tokens stand where `place` takes them. -/
def Report.placed (place : Nat → Nat) : Report → Report
  | .succeeded value bindings => .succeeded value bindings
  | .failed diagnostic => .failed (diagnostic.placed place)

section Running

variable {lead trail : List Char} (before : ∀ c ∈ lead, isBlank c = true)
  (behind : ∀ c ∈ trail, isBlank c = true) (text : List Char)

include before behind

/-- **Blanks around a text move the place where it cannot be read, and change nothing else.** -/
theorem Program.parse_padded (limit : Int) :
    parse limit (String.ofList (lead ++ text ++ trail)) =
      (parse limit (String.ofList text)).mapError
        (ReadError.placed (Text.behindPadding lead.length trail.length text.length)) := by
  obtain ⟨tokens, failure⟩ := Scanner.run_padded before behind text
  refine Option.some.inj ?_
  rw [parse_eq_verdict, Scanner.ofText, String.toList_ofList, tokens, failure,
    Course.verdict_placed, ← Option.map_some, parse_eq_verdict, Scanner.ofText, String.toList_ofList]

/-- **Blanks around a text move the position that its report tells, and change nothing else.** -/
theorem runText_padded (settings : Settings) :
    runText settings (String.ofList (lead ++ text ++ trail)) =
      (runText settings (String.ofList text)).placed
        (Text.behindPadding lead.length trail.length text.length) := by
  have read := Program.parse_padded before behind text settings.maxDepth.val
  rw [runText, runText, Program.read, Program.read, read]
  cases Program.parse settings.maxDepth.val (String.ofList text) with
  | error e => exact congrArg Report.failed (e.diagnostic_placed _)
  | ok program =>
    dsimp only [Except.mapError]
    rcases (Session.fresh settings.rules).evaluate program with ⟨error | value, session⟩
    · cases error <;> rfl
    · rfl

end Running

/-! ### Blank texts -/

/-- Only in a blank text the end of input comes first. -/
theorem Scanner.next_ne_end {text : List Char} {after : Scanner} {token : Token}
    (read : (Scanner.mk 0 text).next = (.ok token, after)) {c : Char} (member : c ∈ text)
    (notBlank : isBlank c = false) : token.kind ≠ .endOfInput := by
  change (atOffset text 0).next = _ at read
  rcases exists_next text 0 with blank | ⟨word, stands, low, blank⟩ | ⟨e, stuck, low, blank⟩
  · obtain ⟨index, found⟩ := List.mem_iff_getElem?.mp member
    have inside := (List.getElem?_eq_some_iff.mp found).1
    rw [blank index c (Nat.zero_le _) inside found] at notBlank
    cases notBlank
  · rw [next_of_stands stands low blank] at read
    cases read
    exact mt Lexeme.kind_eq_endOfInput_iff.mp stands.writes.ne_endOfInput
  · obtain ⟨after', failed⟩ := next_of_obstacle stuck
    rw [next_atOffset low (Nat.le_of_lt stuck.position_lt) blank, failed] at read
    cases read

theorem Window.statements_ne_nil {limit : Int} {done : List Statement} {w after : Window}
    {program : Program} (read : w.statements limit done = .done program after) :
    program.statements ≠ [] := by
  fun_induction w.statements limit done with
  | case1 | case2 | case6 => cases read
  | case3 done w statement after found done' separated _ next gone last =>
    cases read
    exact List.reverse_ne_nil_iff.mpr (List.cons_ne_nil _ _)
  | case4 done w statement after found done' separated _ next gone notLast _ _ ih => exact ih read
  | case5 done w statement after found done' notClosed last =>
    cases read
    exact List.reverse_ne_nil_iff.mpr (List.cons_ne_nil _ _)

/-- **A text that is not blank is no empty program.** -/
theorem Program.statements_ne_nil {limit : Int} {source : String} {program : Program}
    (parsed : parse limit source = .ok program) {c : Char} (member : c ∈ source.toList)
    (notBlank : isBlank c = false) : program.statements ≠ [] := by
  unfold parse at parsed
  split at parsed
  · cases parsed
  · next w opened =>
    have first : w.current.kind ≠ .endOfInput := by
      unfold Window.start at opened
      split at opened
      · next token after read =>
        cases opened
        exact Scanner.next_ne_end read member notBlank
      · cases opened
    split at parsed
    · next read =>
      cases parsed
      rw [Window.program, if_neg first] at read
      exact Window.statements_ne_nil read
    · cases parsed

end Calculator
