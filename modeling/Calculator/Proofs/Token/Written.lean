/-
**Texts and the tokens that they are scanned to.**

* `Lexeme.Writes`: characters that write a token; `Scanner.exists_writes`: every token that is scanned
  is written by some.
* `Written`: a text that writes tokens one after the other, with blanks between them, and with blanks
  or symbols around every number and every name.
* `Written.run`: such a text is scanned to its tokens.
-/

import Calculator.Proofs.Binary64.Exact
import Calculator.Token.Scanner

namespace Calculator

open Text (isBlank)

/-! ### Runs of a scanner -/

namespace Scanner

variable {s after : Scanner} {token : Token}

theorem run_of_error {e : ScanError} (read : s.next = (.error e, after)) :
    s.run = ⟨[], some e, after⟩ := by
  unfold run
  split
  · next same =>
    cases read.symm.trans same
    rfl
  · next same => cases read.symm.trans same

theorem run_of_end (read : s.next = (.ok token, after)) (last : token.kind = .endOfInput) :
    s.run = ⟨[token], none, after⟩ := by
  unfold run
  split
  · next same => cases read.symm.trans same
  · next same =>
    cases read.symm.trans same
    rw [dif_neg (not_not_intro last)]

theorem run_of_token (read : s.next = (.ok token, after)) (notEnd : token.kind ≠ .endOfInput) :
    s.run = ⟨token :: after.run.tokens, after.run.failure, after.run.scanner⟩ := by
  rw [run]
  split
  · next same => cases read.symm.trans same
  · next same =>
    cases read.symm.trans same
    rw [dif_pos notEnd]

end Scanner

theorem scanText_eq_ok_iff {source : String} {tokens : List Token} :
    scanText source = .ok tokens ↔
      (Scanner.ofText source).run.failure = none ∧ (Scanner.ofText source).run.tokens = tokens := by
  unfold scanText
  dsimp only
  cases (Scanner.ofText source).run.failure with
  | none =>
    rw [Except.ok.injEq]
    exact ⟨fun same => ⟨rfl, same⟩, fun both => both.2⟩
  | some e => exact iff_of_false (fun same => nomatch same) (fun both => nomatch both.1)

theorem scanText_eq_error_iff {source : String} {e : ScanError} :
    scanText source = .error e ↔ (Scanner.ofText source).run.failure = some e := by
  unfold scanText
  dsimp only
  cases (Scanner.ofText source).run.failure with
  | none => exact iff_of_false (fun same => nomatch same) (fun same => nomatch same)
  | some stray => rw [Except.error.injEq, Option.some.injEq]

/-! ### Characters -/

namespace Scanner

theorem isNameChar_of_isDigit {c : Char} (digit : c.isDigit = true) : isNameChar c = true := by
  rw [isNameChar, Char.isAlphanum, digit, Bool.or_true]
  rfl

theorem isAlpha_iff {c : Char} : c.isAlpha = true ↔
    (65 ≤ c.toNat ∧ c.toNat ≤ 90) ∨ (97 ≤ c.toNat ∧ c.toNat ≤ 122) := by
  show (decide (c.val ≥ 65 ∧ c.val ≤ 90) || (decide (c.val ≥ 97) && decide (c.val ≤ 122))) = true ↔ _
  rw [Bool.or_eq_true, Bool.and_eq_true, decide_eq_true_eq, decide_eq_true_eq, decide_eq_true_eq]
  exact Iff.rfl

theorem toNat_of_isNameChar {c : Char} (name : isNameChar c = true) :
    48 ≤ c.toNat ∧ c.toNat ≤ 122 := by
  rw [isNameChar, Char.isAlphanum, Bool.or_eq_true, Bool.or_eq_true, isAlpha_iff, Char.isDigit_iff_toNat,
    decide_eq_true_eq] at name
  rcases name with (((upper | lower) | digit) | rfl)
  · exact ⟨Nat.le_trans (by decide) upper.1, Nat.le_trans upper.2 (by decide)⟩
  · exact ⟨Nat.le_trans (by decide) lower.1, lower.2⟩
  · exact ⟨digit.1, Nat.le_trans digit.2 (by decide)⟩
  · decide

/-- A character that a name may hold parts no tokens. -/
theorem isBlank_of_isNameChar {c : Char} (name : isNameChar c = true) : isBlank c = false := by
  obtain ⟨low, high⟩ := toNat_of_isNameChar name
  generalize here : c.toNat = code at low high
  rw [Text.isBlank, Text.CodePoints.contains, Text.CodePoints.rangeOf?, here,
    Option.isSome_eq_false_iff, Option.isNone_iff_eq_none, List.find?_eq_none]
  intro range member
  simp only [Bool.and_eq_true, decide_eq_true_eq]
  simp only [Text.blanks, List.mem_cons, List.not_mem_nil, or_false] at member
  rcases member with rfl | rfl | rfl | rfl | rfl | rfl | rfl | rfl | rfl | rfl <;> omega

end Scanner

theorem Symbol.isBlank_char (which : Symbol) : isBlank which.char = false := by
  cases which <;> rfl

/-! ### Tokens -/

/-- The characters write the token. -/
inductive Lexeme.Writes : Lexeme → List Char → Prop
  | number {value : Float} {digits : List Char} (nonempty : digits ≠ [])
      (digit : ∀ c ∈ digits, c.isDigit = true)
      (read : Binary64.ofNatural? (Binary64.naturalOf digits) = some value) :
      Writes (.number value) digits
  | identifier {first : Char} {more : List Char} (letter : first.isAlpha = true)
      (rest : ∀ c ∈ more, Scanner.isNameChar c = true) :
      Writes (.identifier (String.ofList (first :: more))) (first :: more)
  | symbol (which : Symbol) : Writes (.symbol which) [which.char]

/-- The digits of a natural number write the number that they spell. -/
theorem Lexeme.Writes.digits {number : Nat} {value : Float}
    (read : Binary64.ofNatural? number = some value) :
    (Lexeme.number value).Writes (Binary64.digitChars number) := by
  refine .number (Binary64.digitChars_ne_nil number) ?_ ?_
  · exact fun c member => Binary64.isDigit_of_mem_digitChars member
  · rwa [Binary64.naturalOf_digitChars]

/-- The token cannot be read on into what follows. -/
def Lexeme.Ends (rest : List Char) : Lexeme → Prop
  | .number _ => ∀ c ∈ rest.head?, c.isDigit = false
  | .identifier _ => ∀ c ∈ rest.head?, Scanner.isNameChar c = false
  | _ => True

/-- What follows does not go on with the token. -/
def Lexeme.Apart (rest : List Char) : Lexeme → Prop
  | .symbol _ => True
  | _ => ∀ c ∈ rest.head?, Scanner.isNameChar c = false

/-- No token goes on with a character that no name may hold. -/
theorem Lexeme.apart_of_stops {lexeme : Lexeme} {rest : List Char}
    (stops : ∀ c ∈ rest.head?, Scanner.isNameChar c = false) : lexeme.Apart rest := by
  cases lexeme with
  | number | identifier | endOfInput => exact stops
  | symbol => exact True.intro

/-- The text writes the tokens. -/
inductive Written : List Lexeme → List Char → Prop
  | nil {gap : List Char} (blank : ∀ c ∈ gap, isBlank c = true) : Written [] gap
  | cons {lexeme : Lexeme} {lexemes : List Lexeme} {gap chars rest : List Char}
      (blank : ∀ c ∈ gap, isBlank c = true) (writes : lexeme.Writes chars)
      (apart : lexeme.Apart rest) (more : Written lexemes rest) :
      Written (lexeme :: lexemes) (gap ++ (chars ++ rest))

theorem Lexeme.Writes.exists_head {lexeme : Lexeme} {chars : List Char}
    (writes : lexeme.Writes chars) : ∃ c more, chars = c :: more ∧ isBlank c = false := by
  cases writes with
  | number nonempty digit =>
    obtain ⟨c, more, rfl⟩ := List.exists_cons_of_ne_nil nonempty
    have name := Scanner.isNameChar_of_isDigit (digit c List.mem_cons_self)
    exact ⟨c, more, rfl, Scanner.isBlank_of_isNameChar name⟩
  | identifier letter =>
    exact ⟨_, _, rfl, Scanner.isBlank_of_isNameChar (Scanner.isNameChar_of_isAlpha letter)⟩
  | symbol which => exact ⟨_, _, rfl, which.isBlank_char⟩

theorem Lexeme.Writes.ne_endOfInput {lexeme : Lexeme} {chars : List Char}
    (writes : lexeme.Writes chars) : lexeme ≠ .endOfInput := by
  cases writes <;> exact Lexeme.noConfusion

namespace Written

variable {lexemes : List Lexeme} {text : List Char}

/-- Blanks may stand before a text. -/
theorem blank {c : Char} (white : isBlank c = true) (written : Written lexemes text) :
    Written lexemes (c :: text) := by
  cases written with
  | nil blank => exact .nil (List.forall_mem_cons.mpr ⟨white, blank⟩)
  | cons blank writes apart more =>
    exact .cons (List.forall_mem_cons.mpr ⟨white, blank⟩) writes apart more

/-- A space may stand before a text. -/
theorem space (written : Written lexemes text) : Written lexemes (' ' :: text) := blank rfl written

/-- A text without characters writes no tokens. -/
theorem empty : Written [] [] := .nil (List.forall_mem_nil _)

/-- A token may stand before a text that does not go on with it. -/
theorem token {lexeme : Lexeme} {chars : List Char} (writes : lexeme.Writes chars)
    (apart : lexeme.Apart text) (written : Written lexemes text) :
    Written (lexeme :: lexemes) (chars ++ text) := by
  have noGap : ∀ c ∈ ([] : List Char), isBlank c = true := List.forall_mem_nil _
  exact .cons noGap writes apart written

/-- A symbol may stand before a text. -/
theorem symbol (which : Symbol) (written : Written lexemes text) :
    Written (.symbol which :: lexemes) (which.char :: text) :=
  written.token (.symbol which) True.intro

end Written

/-! ### From a text to its tokens -/

section Pass

variable {p : Char → Bool} {front rest : List Char}
  (holds : ∀ c ∈ front, p c = true) (stops : ∀ c ∈ rest.head?, p c = false)

include holds in
/-- Characters that are passed over may be passed over first. -/
theorem Scanner.pass_append (offset : Nat) :
    (Scanner.mk offset (front ++ rest)).pass p = (Scanner.mk (offset + front.length) rest).pass p := by
  rw [pass, pass, List.takeWhile_append_of_pos holds, List.dropWhile_append_of_pos holds,
    List.length_append, Nat.add_assoc]

include stops

theorem takeWhile_of_stops : rest.takeWhile p = [] ∧ rest.dropWhile p = rest := by
  cases rest with
  | nil => exact ⟨rfl, rfl⟩
  | cons c rest =>
    have fails := Bool.not_eq_true _ ▸ stops c rfl
    exact ⟨List.takeWhile_cons_of_neg fails, List.dropWhile_cons_of_neg fails⟩

include holds

theorem takeWhile_run : (front ++ rest).takeWhile p = front := by
  rw [List.takeWhile_append_of_pos holds, (takeWhile_of_stops stops).1, List.append_nil]

theorem Scanner.pass_run (offset : Nat) :
    (Scanner.mk offset (front ++ rest)).pass p = ⟨offset + front.length, rest⟩ := by
  obtain ⟨none, all⟩ := takeWhile_of_stops stops
  rw [pass_append holds, pass, none, all]
  rfl

end Pass

theorem isDigit_of_not_isNameChar {rest : List Char}
    (stops : ∀ c ∈ rest.head?, Scanner.isNameChar c = false) :
    ∀ c ∈ rest.head?, c.isDigit = false := by
  intro c member
  refine Bool.eq_false_iff.mpr fun digit => ?_
  have name := Scanner.isNameChar_of_isDigit digit
  rw [stops c member] at name
  cases name

theorem Lexeme.Apart.ends {lexeme : Lexeme} {rest : List Char} (apart : lexeme.Apart rest) :
    lexeme.Ends rest := by
  cases lexeme with
  | number => exact isDigit_of_not_isNameChar apart
  | identifier => exact apart
  | symbol | endOfInput => exact True.intro

theorem isDigit_of_isAlpha {c : Char} (letter : c.isAlpha = true) : c.isDigit = false := by
  refine Bool.eq_false_iff.mpr fun digit => ?_
  rw [Scanner.isAlpha_iff] at letter
  have code : 48 ≤ c.toNat ∧ c.toNat ≤ 57 := Char.isDigit_iff_toNat.mp digit
  omega

namespace Scanner

/-- Digits that spell a number are read as that number. -/
theorem number_of_digits {s : Scanner} {digits : List Char} {value : Float} (c : Char)
    (front : s.rest.takeWhile Char.isDigit = digits)
    (read : Binary64.ofNatural? (Binary64.naturalOf digits) = some value) :
    s.number c = .ok ⟨.number value, s.offset⟩ := by
  unfold number
  dsimp only
  rw [front, read, Option.elim_some]

theorem exists_of_number {s : Scanner} {c : Char} {token : Token} (read : s.number c = .ok token) :
    ∃ value, token = ⟨.number value, s.offset⟩ ∧
      Binary64.ofNatural? (Binary64.naturalOf (s.rest.takeWhile Char.isDigit)) = some value := by
  unfold number at read
  dsimp only at read
  cases found : Binary64.ofNatural? (Binary64.naturalOf (s.rest.takeWhile Char.isDigit)) with
  | some value =>
    rw [found, Option.elim_some] at read
    cases read
    exact ⟨value, rfl, rfl⟩
  | none =>
    rw [found, Option.elim_none] at read
    cases read

theorem scan_digits {c : Char} {more rest : List Char} {value : Float} (offset : Nat)
    (digit : ∀ d ∈ c :: more, d.isDigit = true)
    (read : Binary64.ofNatural? (Binary64.naturalOf (c :: more)) = some value)
    (stops : ∀ d ∈ rest.head?, d.isDigit = false) :
    (Scanner.mk offset (c :: more ++ rest)).scan c =
      (.ok ⟨.number value, offset⟩, ⟨offset + (more.length + 1), rest⟩) := by
  generalize same : c :: more = digits at *
  have length : more.length + 1 = digits.length := by rw [← same, List.length_cons]
  rw [scan, if_pos (digit c (same ▸ List.mem_cons_self)), pass_run digit stops, length,
    number_of_digits c (takeWhile_run digit stops) read]

theorem scan_name {c : Char} {more rest : List Char} (offset : Nat) (letter : c.isAlpha = true)
    (name : ∀ d ∈ more, isNameChar d = true) (stops : ∀ d ∈ rest.head?, isNameChar d = false) :
    (Scanner.mk offset (c :: more ++ rest)).scan c =
      (.ok ⟨.identifier (String.ofList (c :: more)), offset⟩,
        ⟨offset + (more.length + 1), rest⟩) := by
  have whole : ∀ d ∈ c :: more, isNameChar d = true :=
    List.forall_mem_cons.mpr ⟨isNameChar_of_isAlpha letter, name⟩
  rw [scan, isDigit_of_isAlpha letter, if_neg Bool.false_ne_true, if_pos letter,
    pass_run whole stops, identifier]
  dsimp only
  rw [takeWhile_run whole stops, List.length_cons]

theorem scan_symbol (which : Symbol) (offset : Nat) (rest : List Char) :
    (Scanner.mk offset (which.char :: rest)).scan which.char =
      (.ok ⟨.symbol which, offset⟩, ⟨offset + 1, rest⟩) := by
  have read : Symbol.ofChar? which.char = some which := Symbol.ofChar?_eq_some_iff.mpr rfl
  have notDigit : which.char.isDigit = false := by cases which <;> rfl
  have notLetter : which.char.isAlpha = false := by cases which <;> rfl
  rw [scan, notDigit, notLetter, if_neg Bool.false_ne_true, if_neg Bool.false_ne_true, read]
  rfl

theorem scan_of_writes {lexeme : Lexeme} {c : Char} {more rest : List Char} (offset : Nat)
    (writes : lexeme.Writes (c :: more)) (ends : lexeme.Ends rest) :
    (Scanner.mk offset (c :: more ++ rest)).scan c =
      (.ok ⟨lexeme, offset⟩, ⟨offset + (more.length + 1), rest⟩) := by
  cases writes with
  | number nonempty digit read => exact scan_digits offset digit read ends
  | identifier letter name => exact scan_name offset letter name ends
  | symbol which => exact scan_symbol which offset rest

/-- Blanks may be passed over first. -/
theorem next_append {gap rest : List Char} (offset : Nat) (blank : ∀ c ∈ gap, isBlank c = true) :
    (Scanner.mk offset (gap ++ rest)).next = (Scanner.mk (offset + gap.length) rest).next := by
  rw [next, next, pass_append blank]

/-- Behind blanks, what is scanned is told by the first character that is none. -/
theorem next_of_head {gap rest : List Char} {c : Char} (offset : Nat)
    (blank : ∀ c ∈ gap, isBlank c = true) (notBlank : isBlank c = false) :
    (Scanner.mk offset (gap ++ c :: rest)).next =
      (Scanner.mk (offset + gap.length) (c :: rest)).scan c := by
  have stops : ∀ d ∈ (c :: rest).head?, isBlank d = false := by
    rintro d ⟨⟩
    exact notBlank
  rw [next, pass_run blank stops]

/-- The next token is the one that is written. -/
theorem next_of_writes {lexeme : Lexeme} {gap chars rest : List Char} (offset : Nat)
    (blank : ∀ c ∈ gap, isBlank c = true) (writes : lexeme.Writes chars)
    (ends : lexeme.Ends rest) :
    (Scanner.mk offset (gap ++ (chars ++ rest))).next =
      (.ok ⟨lexeme, offset + gap.length⟩, ⟨offset + gap.length + chars.length, rest⟩) := by
  obtain ⟨c, more, rfl, notBlank⟩ := writes.exists_head
  rw [List.cons_append, next_of_head offset blank notBlank]
  exact scan_of_writes _ writes ends

/-- A text without more than blanks is at its end. -/
theorem next_of_blank {gap : List Char} (offset : Nat) (blank : ∀ c ∈ gap, isBlank c = true) :
    (Scanner.mk offset gap).next =
      (.ok ⟨.endOfInput, offset + gap.length⟩, ⟨offset + gap.length, []⟩) := by
  have stops : ∀ c ∈ ([] : List Char).head?, isBlank c = false := fun _ none => nomatch none
  have passed := pass_run blank stops offset
  rw [List.append_nil] at passed
  rw [next, passed]

/-- A token is written where it stands. -/
theorem exists_writes_of_next {s after : Scanner} {token : Token}
    (read : s.next = (.ok token, after)) (notEnd : token.lexeme ≠ .endOfInput) :
    ∃ chars, token.lexeme.Writes chars := by
  unfold next at read
  dsimp only at read
  split at read
  · cases read
    exact absurd rfl notEnd
  · next c more here =>
    unfold scan at read
    split at read
    · next digit =>
      obtain ⟨value, rfl, found⟩ := exists_of_number (congrArg Prod.fst read)
      refine ⟨_, .number ?_ (fun d member => ?_) found⟩
      · rw [here, List.takeWhile_cons_of_pos digit]
        exact List.cons_ne_nil _ _
      · exact List.all_eq_true.mp List.all_takeWhile d member
    · split at read
      · next letter =>
        cases read
        rw [identifier, here, List.takeWhile_cons_of_pos (isNameChar_of_isAlpha letter)]
        refine ⟨_, .identifier letter fun d member => ?_⟩
        exact List.all_eq_true.mp List.all_takeWhile d member
      · split at read
        · cases read
          exact ⟨_, .symbol _⟩
        · cases read

/-- **Every token that is scanned is written by some characters.** -/
theorem exists_writes {s : Scanner} {token : Token} (member : token ∈ s.run.tokens)
    (notEnd : token.lexeme ≠ .endOfInput) : ∃ chars, token.lexeme.Writes chars := by
  fun_induction run s with
  | case1 => exact absurd member List.not_mem_nil
  | case2 s first after read notLast _ more ih =>
    rcases List.mem_cons.mp member with rfl | later
    · exact exists_writes_of_next read notEnd
    · exact ih later
  | case3 s last after read isLast =>
    obtain rfl := List.mem_singleton.mp member
    exact absurd (Lexeme.kind_eq_endOfInput_iff.mp (Decidable.not_not.mp isLast)) notEnd

end Scanner

/-- **A text that writes tokens is scanned to them.** -/
theorem Written.run {lexemes : List Lexeme} {text : List Char} (written : Written lexemes text)
    (offset : Nat) :
    (Scanner.mk offset text).run.failure = none ∧
      (Scanner.mk offset text).run.tokens.map Token.lexeme = lexemes ++ [.endOfInput] := by
  induction written generalizing offset with
  | nil blank =>
    rw [Scanner.run_of_end (Scanner.next_of_blank offset blank) rfl]
    exact ⟨rfl, rfl⟩
  | cons blank writes apart more ih =>
    have notEnd := mt Lexeme.kind_eq_endOfInput_iff.mp writes.ne_endOfInput
    rw [Scanner.run_of_token (Scanner.next_of_writes offset blank writes apart.ends) notEnd]
    obtain ⟨fine, tokens⟩ := ih _
    exact ⟨fine, congrArg _ tokens⟩

theorem Written.scanText_eq_ok {lexemes : List Lexeme} {text : String}
    (written : Written lexemes text.toList) :
    ∃ tokens, scanText text = .ok tokens ∧
      tokens.map Token.lexeme = lexemes ++ [.endOfInput] := by
  obtain ⟨fine, tokens⟩ := written.run 0
  exact ⟨_, scanText_eq_ok_iff.mpr ⟨fine, rfl⟩, tokens⟩

end Calculator
