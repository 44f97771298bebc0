/-
**Parentheses of a text and of its tokens.**

* `openParens`: the parentheses that tokens leave open.
* `firstTooDeep?`: the offset of the first parenthesis of a text that opens where as many are open as
  may be; `tooDeepToken?`: the position of the first such token.
* `tooDeepAt?_run`: in a text that can be scanned to its end the two are the same.
-/

import Calculator.Proofs.Token.Written

namespace Calculator

open Text (isBlank)

/-! ### Counting -/

/-- The parentheses that tokens leave open. -/
def openParens (lexemes : List Lexeme) : Int :=
  lexemes.count (.symbol .leftParen) - lexemes.count (.symbol .rightParen)

/-- What a token adds to the parentheses that are open. -/
def Lexeme.opening : Lexeme → Int
  | .symbol .leftParen => 1
  | .symbol .rightParen => -1
  | _ => 0

theorem openParens_concat (lexemes : List Lexeme) (lexeme : Lexeme) :
    openParens (lexemes ++ [lexeme]) = openParens lexemes + lexeme.opening := by
  unfold openParens
  rw [List.count_append, List.count_append, List.count_singleton, List.count_singleton]
  match lexeme with
  | .number _ | .identifier _ | .endOfInput => simp [Lexeme.opening]
  | .symbol which => cases which <;> simp [Lexeme.opening] <;> omega

/-! ### The first parenthesis that nests too deep -/

/-- What a character adds to the parentheses that are open. -/
def openingOf (c : Char) : Int := if c = '(' then 1 else if c = ')' then -1 else 0

/-- The offset of the first parenthesis that opens where `limit` are open already. The text starts at
`offset`, with `depth` open. -/
def tooDeepAt? (limit depth : Int) (offset : Nat) : List Char → Option Nat
  | [] => none
  | c :: rest =>
    if c = '(' ∧ limit ≤ depth then some offset
    else tooDeepAt? limit (depth + openingOf c) (offset + 1) rest

/-- The offset of the first parenthesis of a text that is nested deeper than the limit. -/
def firstTooDeep? (limit : Int) (text : String) : Option Nat := tooDeepAt? limit 0 0 text.toList

/-- The position of the first token that opens a parenthesis where `limit` are open already, with
`depth` open before the tokens. -/
def tooDeepToken? (limit depth : Int) : List Token → Option Nat
  | [] => none
  | token :: rest =>
    if token.lexeme = .symbol .leftParen ∧ limit ≤ depth then some token.position
    else tooDeepToken? limit (depth + token.lexeme.opening) rest

section TooDeep

variable {limit depth : Int} {offset : Nat}

/-- Characters that are no parentheses are passed over. -/
theorem tooDeepAt?_append {front rest : List Char} (plain : ∀ c ∈ front, c ≠ '(' ∧ c ≠ ')') :
    tooDeepAt? limit depth offset (front ++ rest) =
      tooDeepAt? limit depth (offset + front.length) rest := by
  induction front generalizing offset with
  | nil => rfl
  | cons c front ih =>
    obtain ⟨here, others⟩ := List.forall_mem_cons.mp plain
    rw [List.cons_append, tooDeepAt?, if_neg fun opens => here.1 opens.1, openingOf,
      if_neg here.1, if_neg here.2, Int.add_zero, ih others, List.length_cons, Nat.add_assoc,
      Nat.add_comm 1]

theorem tooDeepAt?_pass {p : Char → Bool} (s : Scanner) (opens : p '(' = false)
    (closes : p ')' = false) :
    tooDeepAt? limit depth s.offset s.rest =
      tooDeepAt? limit depth (s.pass p).offset (s.pass p).rest := by
  have plain : ∀ c ∈ s.rest.takeWhile p, c ≠ '(' ∧ c ≠ ')' := by
    intro c member
    have holds := List.all_eq_true.mp List.all_takeWhile c member
    constructor
    · rintro rfl
      exact Bool.false_ne_true (opens.symm.trans holds)
    · rintro rfl
      exact Bool.false_ne_true (closes.symm.trans holds)
  have whole : tooDeepAt? limit depth s.offset (s.rest.takeWhile p ++ s.rest.dropWhile p) =
      tooDeepAt? limit depth (s.pass p).offset (s.pass p).rest := tooDeepAt?_append plain
  rwa [List.takeWhile_append_dropWhile] at whole

/-- Nothing is left behind the end of input. -/
theorem Scanner.rest_of_end {s after : Scanner} {token : Token} (read : s.next = (.ok token, after))
    (ends : token.lexeme = .endOfInput) : after.rest = [] := by
  unfold next at read
  dsimp only at read
  split at read
  · next empty =>
    cases read
    exact empty
  · unfold scan at read
    split at read
    · obtain ⟨number, rfl⟩ := Prod.mk.inj read
      obtain ⟨value, rfl, -⟩ := exists_of_number number
      cases ends
    · split at read
      · cases read
        cases ends
      · split at read <;> cases read
        cases ends

/-- What is left to look at behind a token. -/
def tooDeepBehind? (limit depth : Int) (token : Token) (after : Scanner) : Option Nat :=
  if token.lexeme = .symbol .leftParen ∧ limit ≤ depth then some token.position
  else tooDeepAt? limit (depth + token.lexeme.opening) after.offset after.rest

theorem tooDeepBehind?_of_ne {token : Token} {after : Scanner}
    (other : token.lexeme ≠ .symbol .leftParen) (still : token.lexeme.opening = 0) :
    tooDeepBehind? limit depth token after = tooDeepAt? limit depth after.offset after.rest := by
  rw [tooDeepBehind?, if_neg fun opens => other opens.1, still, Int.add_zero]

theorem tooDeepAt?_symbol (which : Symbol) (rest : List Char) :
    tooDeepAt? limit depth offset (which.char :: rest) =
      tooDeepBehind? limit depth ⟨.symbol which, offset⟩ ⟨offset + 1, rest⟩ := by
  have same : which.char = '(' ↔ Lexeme.symbol which = .symbol .leftParen := by
    cases which <;> decide
  have opening : openingOf which.char = (Lexeme.symbol which).opening := by
    cases which <;> rfl
  rw [tooDeepAt?, tooDeepBehind?, opening]
  simp only [same]

theorem tooDeepAt?_next {s after : Scanner} {token : Token} (read : s.next = (.ok token, after)) :
    tooDeepAt? limit depth s.offset s.rest = tooDeepBehind? limit depth token after := by
  rw [tooDeepAt?_pass (p := isBlank) s rfl rfl]
  unfold Scanner.next at read
  dsimp only at read
  generalize s.pass isBlank = s at *
  split at read
  · next empty =>
    cases read
    rw [tooDeepBehind?_of_ne Lexeme.noConfusion rfl]
  · next c more here =>
    unfold Scanner.scan at read
    split at read
    · obtain ⟨number, rfl⟩ := Prod.mk.inj read
      obtain ⟨value, rfl, -⟩ := Scanner.exists_of_number number
      rw [tooDeepBehind?_of_ne Lexeme.noConfusion rfl]
      exact tooDeepAt?_pass s rfl rfl
    · split at read
      · cases read
        rw [tooDeepBehind?_of_ne Lexeme.noConfusion rfl]
        exact tooDeepAt?_pass s rfl rfl
      · split at read
        · next which found =>
          cases read
          obtain rfl := Symbol.ofChar?_eq_some_iff.mp found
          rw [here]
          exact tooDeepAt?_symbol which more
        · cases read

/-- **The first parenthesis of a text that nests too deep is the first such token.** -/
theorem tooDeepAt?_run {s : Scanner} (fine : s.run.failure = none) (depth : Int) :
    tooDeepAt? limit depth s.offset s.rest = tooDeepToken? limit depth s.run.tokens := by
  revert depth
  fun_induction Scanner.run s with
  | case1 => cases fine
  | case2 s token after read notEnd shorter more ih =>
    intro depth
    rw [tooDeepAt?_next read, tooDeepBehind?, tooDeepToken?, ih fine]
  | case3 s token after read last =>
    intro depth
    have ends := Lexeme.kind_eq_endOfInput_iff.mp (Decidable.not_not.mp last)
    rw [tooDeepAt?_next read, tooDeepBehind?, tooDeepToken?, Scanner.rest_of_end read ends]
    rfl

end TooDeep

end Calculator
