/-
**A cursor under any requests.**

* `Scanner.Request`, `Scanner.perform`, `Scanner.performAll`: what a cursor is asked for, and its answers.
* `Reads`: what can be read from an offset of a text on, and the offset behind it.
* `Scanner.exists_repeated`: an iteration is the next token again and again, up to the first end or
  failure.
* `Scanner.performAll_still`: a cursor that no request moves gives the same answers for ever.
* `Scanner.performAll_moved`: requests further right get the same answers, further right.
* `Scanner.orderly`: what any further requests get, whatever was asked for before.

The two kinds of failure leave the cursor at different places: a stray character stays under it and is
met again, digits that are too many are behind it and are never met again.
-/

import Calculator.Proofs.Token.Moved

namespace Calculator

open Text (isBlank)

namespace Scanner

/-! ### Requests -/

/-- What a cursor is asked for. -/
inductive Request where
  | next
  /-- All tokens, up to the end of input or the first failure. -/
  | iterate
  /-- The character under the cursor. -/
  | current
  deriving DecidableEq, Repr

/-- What a cursor answers. -/
inductive Answer where
  | read (result : Except ScanError Token)
  | iterated (tokens : List Token) (failure : Option ScanError)
  | character (found : Option Char)

/-- What was read last for an answer. -/
def Answer.last? : Answer → Option (Except ScanError Token)
  | .read result => some result
  | .iterated tokens none => tokens.getLast?.map .ok
  | .iterated _ (some e) => some (.error e)
  | .character _ => none

/-- One request, and the cursor after it. -/
def perform (s : Scanner) : Request → Answer × Scanner
  | .next => (.read s.next.1, s.next.2)
  | .iterate => (.iterated s.run.tokens s.run.failure, s.run.scanner)
  | .current => (.character s.current?, s)

/-- Requests one after the other, whatever is answered. -/
def performAll (s : Scanner) : List Request → List Answer × Scanner
  | [] => ([], s)
  | request :: later =>
    let rest := (s.perform request).2.performAll later
    ((s.perform request).1 :: rest.1, rest.2)

variable {s s' : Scanner} {request : Request} {result : Except ScanError Token}

theorem performAll_append (s : Scanner) (first second : List Request) :
    s.performAll (first ++ second) =
      ((s.performAll first).1 ++ ((s.performAll first).2.performAll second).1,
        ((s.performAll first).2.performAll second).2) := by
  induction first generalizing s with
  | nil => rfl
  | cons request first ih =>
    rw [List.cons_append, performAll, ih, performAll, List.cons_append]

/-- **A cursor that no request moves gives the same answers for ever.** -/
theorem performAll_still {answer : Request → Answer}
    (still : ∀ request, s.perform request = (answer request, s)) (later : List Request) :
    s.performAll later = (later.map answer, s) := by
  induction later with
  | nil => rfl
  | cons request later ih => rw [performAll, still request, ih, List.map_cons]

/-! ### Iterations -/

/-- What a run comes to behind some tokens that are not the end of input. -/
inductive Run.ComesTo (run : Run) (front : List Token) : Except ScanError Token → Prop
  | ended {token : Token} (last : token.kind = .endOfInput) (tokens : run.tokens = front ++ [token])
      (complete : run.failure = none) : run.ComesTo front (.ok token)
  | failed {e : ScanError} (tokens : run.tokens = front) (failure : run.failure = some e) :
      run.ComesTo front (.error e)

/-- The tokens are got one by one, and none of them is the end of input. -/
structure Passes (s : Scanner) (front : List Token) (s' : Scanner) : Prop where
  answers : s.performAll (List.replicate front.length .next) = (front.map (.read ∘ .ok), s')
  notEnd : ∀ token ∈ front, token.kind ≠ .endOfInput

theorem Passes.cons {after : Scanner} {token : Token} {front : List Token}
    (read : s.next = (.ok token, after)) (notEnd : token.kind ≠ .endOfInput)
    (passes : after.Passes front s') : s.Passes (token :: front) s' where
  answers := by
    rw [List.length_cons, List.replicate_succ, performAll, perform, read]
    dsimp only
    rw [passes.answers]
    rfl
  notEnd := List.forall_mem_cons.mpr ⟨notEnd, passes.notEnd⟩

/-- **An iteration is the next token again and again**, up to the first end of input or failure. -/
theorem exists_repeated (s : Scanner) :
    ∃ front s' result, s.Passes front s' ∧ s'.next = (result, s.run.scanner) ∧
      s.run.ComesTo front result := by
  fun_induction run s with
  | case1 s e after read => exact ⟨[], s, _, ⟨rfl, List.forall_mem_nil _⟩, read, .failed rfl rfl⟩
  | case2 s token after read notEnd shorter more ih =>
    obtain ⟨front, s', result, passes, last, comes⟩ := ih
    refine ⟨token :: front, s', result, passes.cons read notEnd, last, ?_⟩
    cases comes with
    | ended isEnd tokens complete => exact .ended isEnd (congrArg (token :: ·) tokens) complete
    | failed tokens failure => exact .failed (congrArg (token :: ·) tokens) failure
  | case3 s token after read isEnd =>
    exact ⟨[], s, _, ⟨rfl, List.forall_mem_nil _⟩, read, .ended (Decidable.not_not.mp isEnd) rfl rfl⟩

theorem Run.ComesTo.last? {run : Run} {front : List Token} (comes : run.ComesTo front result) :
    (Answer.iterated run.tokens run.failure).last? = some result := by
  cases comes with
  | ended isEnd tokens complete =>
    rw [complete, Answer.last?, tokens, List.getLast?_concat]
    rfl
  | failed tokens failure => rw [failure, Answer.last?]

/-- Whatever is read last for an answer is the next token of some cursor on the way. -/
theorem exists_next_of_last? (last : (s.perform request).1.last? = some result) :
    ∃ before, (s.performAll before).2.next = (result, (s.perform request).2) := by
  cases request with
  | next =>
    obtain rfl : s.next.1 = result := Option.some.inj last
    exact ⟨[], rfl⟩
  | iterate =>
    obtain ⟨front, s', result', passes, read, comes⟩ := s.exists_repeated
    obtain rfl : result' = result := Option.some.inj (comes.last?.symm.trans last)
    refine ⟨List.replicate front.length .next, ?_⟩
    rw [passes.answers]
    exact read
  | current => cases last

/-- A run takes up at least one character for each token but the last. -/
theorem length_run_le (s : Scanner) : s.run.tokens.length ≤ s.rest.length + 1 := by
  fun_induction run s with
  | case1 => exact Nat.zero_le _
  | case2 s token after read notEnd shorter more ih => exact Nat.succ_le_succ (Nat.le_trans ih shorter)
  | case3 => exact Nat.le_add_left ..

/-! ### Invariants -/

/-- What holds after the next token holds after any request. -/
theorem perform_keeps {holds : Scanner → Prop} (step : ∀ s, holds s → holds s.next.2)
    (start : holds s) (request : Request) : holds (s.perform request).2 := by
  cases request with
  | next => exact step s start
  | iterate =>
    show holds s.run.scanner
    fun_induction run s with
    | case1 s e after read | case3 s token after read isEnd =>
      have here := step s start
      rwa [read] at here
    | case2 s token after read notEnd shorter more ih =>
      have here := step s start
      rw [read] at here
      exact ih here
  | current => exact start

theorem performAll_keeps {holds : Scanner → Prop} (step : ∀ s, holds s → holds s.next.2)
    (start : holds s) (requests : List Request) : holds (s.performAll requests).2 := by
  induction requests generalizing s with
  | nil => exact start
  | cons request requests ih => exact ih (perform_keeps step start request)

end Scanner

/-! ### Reading at a place of a text -/

/-- What can be read from an offset of a text on, and the offset behind it. -/
inductive Reads (text : List Char) (start : Nat) : Except ScanError Token → Nat → Prop
  | ended (blank : BlankBetween text start text.length) :
      Reads text start (.ok ⟨.endOfInput, text.length⟩) text.length
  | word {word : Word} (stands : word.Stands text) (low : start ≤ word.start)
      (blank : BlankBetween text start word.start) : Reads text start (.ok word.token) word.stop
  | stuck {e : ScanError} (obstacle : Obstacle text e) (low : start ≤ e.position)
      (blank : BlankBetween text start e.position) :
      Reads text start (.error e) (e.position + e.fault.passed)

namespace Reads

variable {text : List Char} {start stop : Nat} {result : Except ScanError Token}

theorem exists_of (text : List Char) (start : Nat) : ∃ result stop, Reads text start result stop := by
  rcases exists_next text start with blank | ⟨word, stands, low, blank⟩ | ⟨e, obstacle, low, blank⟩
  · exact ⟨_, _, .ended blank⟩
  · exact ⟨_, _, .word stands low blank⟩
  · exact ⟨_, _, .stuck obstacle low blank⟩

theorem le (reads : Reads text start result stop) (inside : start ≤ text.length) : start ≤ stop := by
  cases reads with
  | ended => exact inside
  | word stands low => exact Nat.le_trans low (Nat.le_of_lt stands.start_lt_stop)
  | stuck obstacle low => exact Nat.le_add_right_of_le low

theorem stop_le (reads : Reads text start result stop) : stop ≤ text.length := by
  cases reads with
  | ended => exact Nat.le_refl _
  | word stands => exact stands.stop_le
  | stuck obstacle => exact obstacle.passed_le

/-- **The next token is what can be read.** -/
theorem next (reads : Reads text start result stop) (inside : start ≤ text.length) :
    (Scanner.atOffset text start).next = (result, Scanner.atOffset text stop) := by
  cases reads with
  | ended blank =>
    rw [Scanner.next_atOffset inside (Nat.le_refl _) blank, Scanner.atOffset_length]
    exact Scanner.next_of_blank _ (List.forall_mem_nil _)
  | word stands low blank => exact Scanner.next_of_stands stands low blank
  | stuck obstacle low blank =>
    rw [Scanner.next_atOffset low (Nat.le_of_lt obstacle.position_lt) blank]
    exact Scanner.next_at_obstacle obstacle

end Reads

namespace Scanner

/-- The cursor is at an offset of a text, which may be its end. -/
structure On (text : List Char) (s : Scanner) : Prop where
  eq : s = atOffset text s.offset
  inside : s.offset ≤ text.length

section On

variable {text : List Char} {s after : Scanner} {result : Except ScanError Token}

theorem On.atOffset {offset : Nat} (inside : offset ≤ text.length) : On text (atOffset text offset) :=
  ⟨rfl, inside⟩

theorem On.length_rest (on : On text s) : s.rest.length = text.length - s.offset := by
  rw [on.eq]
  exact List.length_drop

theorem On.reads (on : On text s) (read : s.next = (result, after)) :
    ∃ stop, Reads text s.offset result stop ∧ after = Scanner.atOffset text stop := by
  obtain ⟨result', stop, reads⟩ := Reads.exists_of text s.offset
  have here := reads.next on.inside
  rw [← on.eq, read] at here
  cases here
  exact ⟨stop, reads, rfl⟩

/-- **The next token takes the cursor along the text**, never back. -/
theorem On.next (on : On text s) : On text s.next.2 ∧ s.offset ≤ s.next.2.offset := by
  have read : s.next = (s.next.1, s.next.2) := rfl
  obtain ⟨stop, reads, after⟩ := on.reads read
  rw [after]
  exact ⟨.atOffset reads.stop_le, reads.le on.inside⟩

theorem On.perform (on : On text s) (request : Request) :
    On text (s.perform request).2 ∧ s.offset ≤ (s.perform request).2.offset := by
  have step (s' : Scanner) (holds : On text s' ∧ s.offset ≤ s'.offset) :
      On text s'.next.2 ∧ s.offset ≤ s'.next.2.offset :=
    ⟨holds.1.next.1, Nat.le_trans holds.2 holds.1.next.2⟩
  exact perform_keeps step ⟨on, Nat.le_refl _⟩ request

theorem On.performAll (on : On text s) (requests : List Request) : On text (s.performAll requests).2 :=
  performAll_keeps (fun _ holds => holds.next.1) on requests

/-- What is read last for an answer can be read somewhere behind the cursor. -/
theorem On.exists_reads {request : Request} (on : On text s)
    (last : (s.perform request).1.last? = some result) :
    ∃ start stop, start ≤ text.length ∧ Reads text start result stop ∧
      (s.perform request).2 = Scanner.atOffset text stop := by
  obtain ⟨before, read⟩ := exists_next_of_last? last
  obtain ⟨stop, reads, after⟩ := (on.performAll before).reads read
  exact ⟨_, stop, (on.performAll before).inside, reads, after⟩

end On

/-! ### The two ends of a cursor -/

/-- What is answered at the end of a text. -/
def Request.atEnd (length : Nat) : Request → Answer
  | .next => .read (.ok ⟨.endOfInput, length⟩)
  | .iterate => .iterated [⟨.endOfInput, length⟩] none
  | .current => .character none

/-- What is answered at a stray character. -/
def Request.atStray (e : ScanError) : Request → Answer
  | .next => .read (.error e)
  | .iterate => .iterated [] (some e)
  | .current => .character (some e.character)

variable {text : List Char}

/-- **At the end of a text every request gets the end.** -/
theorem performAll_atEnd (text : List Char) (later : List Request) :
    (atOffset text text.length).performAll later =
      (later.map (Request.atEnd text.length), atOffset text text.length) := by
  refine performAll_still (fun request => ?_) later
  have read := Reads.next (.ended (.of_le (Nat.le_refl _))) (Nat.le_refl text.length)
  cases request with
  | next => rw [perform, read]; rfl
  | iterate => rw [perform, run_of_end read rfl]; rfl
  | current => rw [perform, current?, atOffset_length]; rfl

/-- **At a stray character every request fails there.** -/
theorem performAll_atStray {c : Char} {offset : Nat}
    (obstacle : Obstacle text ⟨c, offset, .strayCharacter⟩) (later : List Request) :
    (atOffset text offset).performAll later =
      (later.map (Request.atStray ⟨c, offset, .strayCharacter⟩), atOffset text offset) := by
  refine performAll_still (fun request => ?_) later
  have read := next_at_obstacle obstacle
  cases request with
  | next => exact congrArg (fun read => (Answer.read read.1, read.2)) read
  | iterate => rw [perform, run_of_error read]; rfl
  | current =>
    cases obstacle with
    | strayCharacter here => rw [perform, current?, atOffset, drop_of_here here]; rfl

/-! ### Further right -/

/-- The answer so many characters further right. -/
def Answer.moved (distance : Nat) : Answer → Answer
  | .read result => .read ((result.map (Token.moved distance)).mapError (ScanError.moved distance))
  | .iterated tokens failure =>
    .iterated (tokens.map (Token.moved distance)) (failure.map (ScanError.moved distance))
  | .character found => .character found

theorem perform_moved (distance : Nat) (s : Scanner) (request : Request) :
    (s.moved distance).perform request =
      ((s.perform request).1.moved distance, (s.perform request).2.moved distance) := by
  cases request with
  | next => rw [perform, next_moved]; rfl
  | iterate =>
    obtain ⟨tokens, failure⟩ := s.run_moved distance
    rw [perform, tokens, failure, scanner_run_moved]
    rfl
  | current => rfl

/-- **Requests further right get the same answers, further right.** -/
theorem performAll_moved (distance : Nat) (s : Scanner) (requests : List Request) :
    (s.moved distance).performAll requests =
      ((s.performAll requests).1.map (Answer.moved distance),
        (s.performAll requests).2.moved distance) := by
  induction requests generalizing s with
  | nil => rfl
  | cons request requests ih => rw [performAll, perform_moved, ih, performAll, List.map_cons]

/-! ### The main result -/

/-- **What a cursor over a text answers from here on.** -/
structure Orderly (source : String) (s : Scanner) : Prop where
  /-- The cursor is between the start and the end of the text, and what is left is what it stands before. -/
  place : s.offset ≤ source.length ∧ s.rest = source.toList.drop s.offset
  /-- No request moves it back or past the end. -/
  forth : ∀ request, s.offset ≤ (s.perform request).2.offset ∧
    (s.perform request).2.offset ≤ source.length
  /-- The character under the cursor is looked at without a move. -/
  current : s.perform .current = (.character source.toList[s.offset]?, s)
  /-- A token is the next word of the text, and the cursor is behind its last character then. -/
  word : ∀ token, (s.perform .next).1 = .read (.ok token) → token.kind ≠ .endOfInput →
    ∃ word : Word, word.token = token ∧ word.Stands source.toList ∧ s.offset ≤ word.start ∧
      BlankBetween source.toList s.offset word.start ∧ (s.perform .next).2.offset = word.stop
  /-- The end of input is at the end of the text, and all that is read from then on. -/
  ended : ∀ request token, (s.perform request).1.last? = some (.ok token) →
    token.kind = .endOfInput → token = ⟨.endOfInput, source.length⟩ ∧
      ∀ later, (s.perform request).2.performAll later =
        (later.map (Request.atEnd source.length), (s.perform request).2)
  /-- A stray character stays under the cursor, and fails every further reading. -/
  stray : ∀ request c position,
    (s.perform request).1.last? = some (.error ⟨c, position, .strayCharacter⟩) →
      (s.perform request).2.offset = position ∧ source.toList[position]? = some c ∧
      ∀ later, (s.perform request).2.performAll later =
        (later.map (Request.atStray ⟨c, position, .strayCharacter⟩), (s.perform request).2)
  /-- Too many digits are passed over, and what is read behind them is what is read there on its own. -/
  tooLarge : ∀ request c position count,
    (s.perform request).1.last? = some (.error ⟨c, position, .numberTooLarge count⟩) →
      ∃ digits rest, source.toList.drop position = digits ++ rest ∧ digits.length = count ∧
        digits.head? = some c ∧ (∀ d ∈ digits, d.isDigit = true) ∧
        (∀ d ∈ rest.head?, d.isDigit = false) ∧
        (s.perform request).2.offset = position + count ∧
        ∀ later, (s.perform request).2.performAll later =
          let alone := (ofText (String.ofList rest)).performAll later
          (alone.1.map (Answer.moved (position + count)), alone.2.moved (position + count))
  /-- An iteration gets what the next token gets again and again, up to the first end or failure. -/
  iterate : ∀ tokens failure, (s.perform .iterate).1 = .iterated tokens failure →
    s.performAll (List.replicate (tokens.length + failure.toList.length) .next) =
        (tokens.map (.read ∘ .ok) ++ failure.toList.map (.read ∘ .error), (s.perform .iterate).2) ∧
      (∀ token ∈ tokens.dropLast, token.kind ≠ .endOfInput) ∧
      ((∃ token ∈ tokens.getLast?, token.kind = .endOfInput) ↔ failure = none) ∧
      tokens.length ≤ source.length - s.offset + 1

section Orderly

variable {source : String} {s : Scanner}

theorem On.word (on : On source.toList s) {token : Token}
    (read : (s.perform .next).1 = .read (.ok token)) (notEnd : token.kind ≠ .endOfInput) :
    ∃ word : Word, word.token = token ∧ word.Stands source.toList ∧ s.offset ≤ word.start ∧
      BlankBetween source.toList s.offset word.start ∧ (s.perform .next).2.offset = word.stop := by
  have here : s.next = (.ok token, s.next.2) := Prod.ext (Answer.read.inj read) rfl
  obtain ⟨stop, reads, after⟩ := on.reads here
  cases reads with
  | ended => exact absurd rfl notEnd
  | @word word stands low blank =>
    exact ⟨word, rfl, stands, low, blank, congrArg Scanner.offset after⟩

theorem On.ended (on : On source.toList s) {request : Request} {token : Token}
    (last : (s.perform request).1.last? = some (.ok token)) (isEnd : token.kind = .endOfInput) :
    token = ⟨.endOfInput, source.length⟩ ∧ ∀ later, (s.perform request).2.performAll later =
      (later.map (Request.atEnd source.length), (s.perform request).2) := by
  obtain ⟨start, stop, inside, reads, after⟩ := on.exists_reads last
  cases reads with
  | ended blank =>
    rw [after, ← String.length_toList]
    exact ⟨rfl, performAll_atEnd source.toList⟩
  | word stands =>
    exact absurd (Lexeme.kind_eq_endOfInput_iff.mp isEnd) stands.writes.ne_endOfInput

theorem On.stray (on : On source.toList s) {request : Request} {c : Char} {position : Nat}
    (last : (s.perform request).1.last? = some (.error ⟨c, position, .strayCharacter⟩)) :
    (s.perform request).2.offset = position ∧ source.toList[position]? = some c ∧
      ∀ later, (s.perform request).2.performAll later =
        (later.map (Request.atStray ⟨c, position, .strayCharacter⟩), (s.perform request).2) := by
  obtain ⟨start, stop, inside, reads, after⟩ := on.exists_reads last
  cases reads with
  | stuck obstacle =>
    have here : source.toList[position]? = some c := by
      cases obstacle with
      | strayCharacter here => exact here
    rw [after]
    exact ⟨rfl, here, performAll_atStray obstacle⟩

theorem On.tooLarge (on : On source.toList s) {request : Request} {c : Char} {position count : Nat}
    (last : (s.perform request).1.last? = some (.error ⟨c, position, .numberTooLarge count⟩)) :
    ∃ digits rest, source.toList.drop position = digits ++ rest ∧ digits.length = count ∧
      digits.head? = some c ∧ (∀ d ∈ digits, d.isDigit = true) ∧
      (∀ d ∈ rest.head?, d.isDigit = false) ∧ (s.perform request).2.offset = position + count ∧
      ∀ later, (s.perform request).2.performAll later =
        let alone := (ofText (String.ofList rest)).performAll later
        (alone.1.map (Answer.moved (position + count)), alone.2.moved (position + count)) := by
  obtain ⟨start, stop, inside, reads, after⟩ := on.exists_reads last
  cases reads with
  | stuck obstacle =>
    cases obstacle with
    | @numberTooLarge _ more _ digits found longest infinite =>
      refine ⟨c :: more, _, drop_of_found found, rfl, rfl, digits, longest, ?_, fun later => ?_⟩
      · rw [after]
        rfl
      · have fresh : Scanner.atOffset source.toList (position + (c :: more).length) =
            (ofText (String.ofList (source.toList.drop (position + (c :: more).length)))).moved
              (position + (c :: more).length) := by
          rw [ofText, moved, Nat.zero_add, String.toList_ofList, Scanner.atOffset]
        rw [after, ScanFault.passed, fresh]
        exact performAll_moved _ _ later

theorem On.iterate (on : On source.toList s) {tokens : List Token} {failure : Option ScanError}
    (iterated : (s.perform .iterate).1 = .iterated tokens failure) :
    s.performAll (List.replicate (tokens.length + failure.toList.length) .next) =
        (tokens.map (.read ∘ .ok) ++ failure.toList.map (.read ∘ .error), (s.perform .iterate).2) ∧
      (∀ token ∈ tokens.dropLast, token.kind ≠ .endOfInput) ∧
      ((∃ token ∈ tokens.getLast?, token.kind = .endOfInput) ↔ failure = none) ∧
      tokens.length ≤ source.length - s.offset + 1 := by
  obtain ⟨rfl, rfl⟩ := Answer.iterated.inj iterated
  have short : s.run.tokens.length ≤ source.length - s.offset + 1 := by
    rw [← String.length_toList, ← on.length_rest]
    exact s.length_run_le
  obtain ⟨front, s', result, passes, read, comes⟩ := s.exists_repeated
  have again : s.performAll (List.replicate (front.length + 1) .next) =
      (front.map (.read ∘ .ok) ++ [.read result], s.run.scanner) := by
    rw [List.replicate_succ', performAll_append, passes.answers, Scanner.performAll, Scanner.perform, read]
    rfl
  cases comes with
  | @ended token isEnd tokens complete =>
    refine ⟨?_, ?_, ?_, short⟩
    · rw [tokens, complete, List.map_append, List.append_assoc, List.length_append]
      exact again
    · rw [tokens, List.dropLast_concat]
      exact passes.notEnd
    · rw [tokens, List.getLast?_concat]
      exact ⟨fun _ => complete, fun _ => ⟨token, rfl, isEnd⟩⟩
  | @failed e tokens failure =>
    obtain rfl := tokens
    rw [failure]
    refine ⟨again, fun token member => ?_, ⟨?_, fun none => nomatch none⟩, short⟩
    · exact passes.notEnd token (List.dropLast_subset _ member)
    · rintro ⟨token, last, isEnd⟩
      exact absurd isEnd (passes.notEnd token (List.mem_of_getLast? last))

end Orderly

/-- **A cursor stays orderly under any requests.** -/
theorem orderly (source : String) (before : List Request) :
    Orderly source ((ofText source).performAll before).2 := by
  have start : On source.toList (ofText source) := ⟨rfl, Nat.zero_le _⟩
  have on := start.performAll before
  have inside := on.inside
  rw [String.length_toList] at inside
  exact {
    place := ⟨inside, congrArg Scanner.rest on.eq⟩
    forth := fun request => by
      obtain ⟨after, forth⟩ := on.perform request
      have bound := after.inside
      rw [String.length_toList] at bound
      exact ⟨forth, bound⟩
    current := by
      have rest := congrArg Scanner.rest on.eq
      rw [perform, current?, rest, Scanner.atOffset, List.head?_drop]
    word := fun token => on.word
    ended := fun request token => on.ended
    stray := fun request c position => on.stray
    tooLarge := fun request c position count => on.tooLarge
    iterate := fun tokens failure => on.iterate }

end Scanner

end Calculator
