/-
**Scanning behind another text.**

* `Token.placed`, `ScanError.placed`: the same at another place; `Token.moved`, `ScanError.moved`,
  `Scanner.moved`: the same further right.
* `Scanner.run_moved`: a scanner further right finds the same tokens and the same failure further right.
* `Munched.append`: the words of a text are words of a longer one, if none of them goes on in it.
* `run_append_symbol`: a text, a symbol and another text are scanned to the tokens of the first, the
  symbol and the tokens of the second further right.

A symbol goes on with no word, so the longest match ends before it as it does at the end of a text.
-/

import Calculator.Proofs.Token.Munch

namespace Calculator

open Text (isBlank)

/-! ### Other places -/

/-- The token where `place` takes it. -/
def Token.placed (place : Nat → Nat) (token : Token) : Token :=
  { token with position := place token.position }

/-- The failure where `place` takes it. -/
def ScanError.placed (place : Nat → Nat) (e : ScanError) : ScanError :=
  { e with position := place e.position }

/-! ### Further right -/

/-- The token so many characters further right. -/
def Token.moved (distance : Nat) (token : Token) : Token :=
  { token with position := token.position + distance }

/-- The failure so many characters further right. -/
def ScanError.moved (distance : Nat) (e : ScanError) : ScanError :=
  { e with position := e.position + distance }

namespace Scanner

/-- The cursor so many characters further right, before the same text. -/
def moved (distance : Nat) (s : Scanner) : Scanner := ⟨s.offset + distance, s.rest⟩

/-- What was scanned so many characters further right. -/
def movedRead (distance : Nat) (read : Except ScanError Token × Scanner) :
    Except ScanError Token × Scanner :=
  ((read.1.map (Token.moved distance)).mapError (ScanError.moved distance), read.2.moved distance)

variable (distance : Nat) (s : Scanner)

theorem pass_moved (p : Char → Bool) : (s.moved distance).pass p = (s.pass p).moved distance := by
  unfold pass moved
  dsimp only
  rw [Nat.add_right_comm]

theorem scan_moved (c : Char) :
    (s.moved distance).scan c = movedRead distance (s.scan c) := by
  unfold scan
  split
  · rw [pass_moved, movedRead]
    unfold number
    dsimp only [moved]
    cases Binary64.ofNatural? (Binary64.naturalOf (s.rest.takeWhile Char.isDigit)) <;> rfl
  · split
    · rw [pass_moved]
      rfl
    · split
      · rw [movedRead, moved, moved, Nat.add_right_comm]
        rfl
      · rfl

/-- **The next token further right is the next token, further right.** -/
theorem next_moved : (s.moved distance).next = movedRead distance s.next := by
  rw [next, pass_moved, next]
  obtain ⟨offset, rest⟩ := s.pass isBlank
  cases rest with
  | nil => rfl
  | cons c rest => exact scan_moved distance ⟨offset, c :: rest⟩ c

/-- **A run further right is the run, further right.** -/
theorem run_moved :
    (s.moved distance).run.tokens = s.run.tokens.map (Token.moved distance) ∧
      (s.moved distance).run.failure = s.run.failure.map (ScanError.moved distance) := by
  have here := next_moved distance
  fun_induction run s with
  | case1 s e after read =>
    rw [run_of_error ((here s).trans (congrArg (movedRead distance) read))]
    exact ⟨rfl, rfl⟩
  | case2 s token after read notEnd shorter more ih =>
    rw [run_of_token ((here s).trans (congrArg (movedRead distance) read)) notEnd]
    exact ⟨congrArg _ ih.1, ih.2⟩
  | case3 s token after read last =>
    rw [run_of_end ((here s).trans (congrArg (movedRead distance) read)) (Decidable.not_not.mp last)]
    exact ⟨rfl, rfl⟩

theorem scanner_run_moved : (s.moved distance).run.scanner = s.run.scanner.moved distance := by
  have here := next_moved distance
  fun_induction run s with
  | case1 s e after read =>
    rw [run_of_error ((here s).trans (congrArg (movedRead distance) read))]
  | case2 s token after read notEnd shorter more ih =>
    rw [run_of_token ((here s).trans (congrArg (movedRead distance) read)) notEnd]
    exact ih
  | case3 s token after read last =>
    rw [run_of_end ((here s).trans (congrArg (movedRead distance) read)) (Decidable.not_not.mp last)]

end Scanner

/-! ### Longer texts -/

theorem Lexeme.Ends.append {lexeme : Lexeme} {front back : List Char} (here : lexeme.Ends front)
    (behind : lexeme.Ends back) : lexeme.Ends (front ++ back) := by
  cases front with
  | nil => exact behind
  | cons c front => cases lexeme <;> exact here

/-- No word goes on with a symbol. -/
theorem Lexeme.ends_symbol (lexeme : Lexeme) (which : Symbol) (rest : List Char) :
    lexeme.Ends (which.char :: rest) := by
  have apart : ∀ c ∈ (which.char :: rest).head?, Scanner.isNameChar c = false := by
    rintro c ⟨⟩
    cases which <;> rfl
  exact (Lexeme.apart_of_stops apart).ends

section Append

variable {text rest : List Char} {start stop : Nat} {words : List Word}

/-- What a text has at a place, a longer one has there. -/
theorem found_append {chars : List Char} (found : (text.drop start).take chars.length = chars)
    (bound : start + chars.length ≤ text.length) :
    ((text ++ rest).drop start).take chars.length = chars := by
  have long : chars.length ≤ (text.drop start).length := by
    rw [List.length_drop]
    omega
  rw [List.drop_append_of_le_length (by omega), List.take_append_of_le_length long, found]

theorem Word.Stands.append {word : Word} (stands : word.Stands text)
    (apart : word.token.lexeme.Ends rest) : word.Stands (text ++ rest) where
  writes := stands.writes
  found := found_append stands.found stands.stop_le
  longest := by
    rw [List.drop_append_of_le_length stands.stop_le]
    exact stands.longest.append apart

/-- Where no token can be read in a text, none can be read in a longer one, if digits do not go on. -/
theorem Obstacle.append {e : ScanError} (stuck : Obstacle text e)
    (apart : ∀ d ∈ rest.head?, d.isDigit = false) : Obstacle (text ++ rest) e := by
  cases stuck with
  | strayCharacter here notBlank notDigit notLetter notSymbol =>
    have inside := (List.getElem?_eq_some_iff.mp here).1
    rw [← List.getElem?_append_left inside] at here
    exact .strayCharacter here notBlank notDigit notLetter notSymbol
  | @numberTooLarge c more offset digits found longest infinite =>
    have bound := le_of_found found (Nat.zero_lt_succ _)
    refine .numberTooLarge digits (found_append found bound) ?_ infinite
    rw [List.drop_append_of_le_length bound]
    cases behind : text.drop (offset + (c :: more).length) with
    | nil => exact apart
    | cons d front =>
      rw [behind] at longest
      exact longest

/-- **The words of a text are words of a longer one, if none of them goes on in it.** -/
theorem Munched.append (munched : Munched text start words stop) (bound : stop ≤ text.length)
    (apart : ∀ word ∈ words, word.token.lexeme.Ends rest) :
    Munched (text ++ rest) start words stop where
  stands word member := (munched.stands word member).append (apart word member)
  ordered := munched.ordered
  between := munched.between
  blank := by
    intro offset c low high found outside
    rw [List.getElem?_append_left (Nat.lt_of_lt_of_le high bound)] at found
    exact munched.blank offset c low high found outside

end Append

/-- **A text, a symbol and another text are scanned one after the other.** -/
theorem run_append_symbol {first : String} {words : List Word}
    (munched : Munched first.toList 0 words first.length) (which : Symbol) (second : String) :
    let run := (Scanner.ofText (first ++ String.singleton which.char ++ second)).run
    run.tokens = words.map Word.token ++ ⟨.symbol which, first.length⟩ ::
        (Scanner.ofText second).run.tokens.map (Token.moved (first.length + 1)) ∧
      run.failure = (Scanner.ofText second).run.failure.map (ScanError.moved (first.length + 1)) := by
  have text : (first ++ String.singleton which.char ++ second).toList =
      first.toList ++ which.char :: second.toList := by
    simp only [String.toList_append, String.toList_singleton, List.append_assoc,
      List.singleton_append]
  have length : first.length = first.toList.length := String.length_toList.symm
  have longer : Munched (first.toList ++ which.char :: second.toList) 0 words first.length :=
    munched.append (Nat.le_of_eq length) fun word _ => word.token.lexeme.ends_symbol which _
  have bound : first.length ≤ (first.toList ++ which.char :: second.toList).length := by
    rw [List.length_append, ← length]
    exact Nat.le_add_right _ _
  obtain ⟨tokens, failure⟩ := longer.run_eq (Nat.zero_le _) bound
  have behind : Scanner.atOffset (first.toList ++ which.char :: second.toList) first.length =
      ⟨first.length, which.char :: second.toList⟩ := by
    rw [Scanner.atOffset, length, List.drop_left]
  have read : (Scanner.mk first.length (which.char :: second.toList)).next =
      (.ok ⟨.symbol which, first.length⟩, (Scanner.ofText second).moved (first.length + 1)) := by
    have noGap : ∀ c ∈ ([] : List Char), isBlank c = true := List.forall_mem_nil _
    rw [Scanner.ofText, Scanner.moved, Nat.zero_add]
    exact Scanner.next_of_writes first.length noGap (.symbol which) True.intro
  obtain ⟨moved, movedFailure⟩ := (Scanner.ofText second).run_moved (first.length + 1)
  rw [behind, Scanner.run_of_token read Kind.noConfusion] at tokens failure
  dsimp only at tokens failure ⊢
  rw [Scanner.ofText, text, ← moved, ← movedFailure]
  exact ⟨tokens, failure⟩

end Calculator
