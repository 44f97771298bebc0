/-
**Number literals are read exactly up to one rounding.**

* `DigitRun`: a run of digits where a cursor finds it, and none behind it; `DigitRun.value`: the natural
  number that it spells.
* `DigitRun.read_eq`: the run is read as the number nearest to that number, or refused as a whole.
* `naturalOf_zeros`: zeros in front spell nothing.
* `scanText_literal`: the literal of a number that was read is scanned to that number.
* `DigitRun.ReadsNearest`: all that is said of a run of digits; `DigitRun.nearest`: it holds of every run.

A run is judged by the number that it spells, and only the message of a refusal counts its characters.
-/

import Calculator.Proofs.Binary64.Rounding
import Calculator.Proofs.Token.Munch

namespace Calculator

open Binary64 (IsNearest digitChars literalText naturalOf ofNatural? overflow rational?)
open Text (isBlank)

/-! ### Digits -/

/-- Zeros in front spell nothing. -/
theorem naturalOf_zeros (zeros : Nat) (digits : List Char) :
    naturalOf (List.replicate zeros '0' ++ digits) = naturalOf digits := by
  induction zeros with
  | zero => rfl
  | succ zeros ih =>
    rw [← ih]
    rfl

/-! ### Runs of digits -/

/-- A run of digits before a cursor, which passes over blanks first; the text does not go on with a
digit. -/
structure DigitRun where
  offset : Nat
  gap : List Char
  first : Char
  more : List Char
  rest : List Char
  blank : ∀ c ∈ gap, isBlank c = true
  digits : ∀ c ∈ first :: more, c.isDigit = true
  stops : ∀ c ∈ rest.head?, c.isDigit = false

namespace DigitRun

/-- The digits of a run. -/
def chars (run : DigitRun) : List Char := run.first :: run.more

/-- The natural number that a run spells. -/
def value (run : DigitRun) : Nat := naturalOf run.chars

/-- The offset where a run starts. -/
def start (run : DigitRun) : Nat := run.offset + run.gap.length

/-- The cursor before a run. -/
def scanner (run : DigitRun) : Scanner := ⟨run.offset, run.gap ++ (run.chars ++ run.rest)⟩

/-- What is read at a run. -/
def read (run : DigitRun) : Except ScanError Token := run.scanner.next.1

/-- A run is read as a number. -/
def Accepts (run : DigitRun) (x : Float) : Prop := run.read = .ok ⟨.number x, run.start⟩

/-- What is said of a run that is too large: where it starts, its first digit and its length. -/
def refusal (run : DigitRun) : ScanError := ⟨run.first, run.start, .numberTooLarge run.chars.length⟩

/-- **A run is read as the number that is nearest to what it spells, or it is refused as a whole.** -/
theorem read_eq (run : DigitRun) :
    run.read = (ofNatural? run.value).elim (.error run.refusal) fun x => .ok ⟨.number x, run.start⟩ := by
  have name := Scanner.isNameChar_of_isDigit (run.digits run.first List.mem_cons_self)
  have here := @Scanner.next_of_head run.gap (run.more ++ run.rest) run.first run.offset run.blank
    (Scanner.isBlank_of_isNameChar name)
  rw [read, scanner, chars, List.cons_append, here]
  cases found : ofNatural? run.value with
  | some x => exact congrArg Prod.fst (Scanner.scan_digits _ run.digits found run.stops)
  | none => exact congrArg Prod.fst (Scanner.scan_numberTooLarge _ run.digits run.stops found)

theorem accepts_iff {run : DigitRun} {x : Float} : run.Accepts x ↔ ofNatural? run.value = some x := by
  rw [Accepts, read_eq]
  cases ofNatural? run.value with
  | some y => simp
  | none => simp

end DigitRun

/-! ### Literals -/

/-- **The literal of a number that digits spell is scanned to that number.** -/
theorem scanText_literal {x : Float} {number : Nat} (read : ofNatural? number = some x) :
    scanText (String.ofList (digitChars number)) =
      .ok [⟨.number x, 0⟩, ⟨.endOfInput, (digitChars number).length⟩] := by
  have noGap : ∀ c ∈ ([] : List Char), isBlank c = true := List.forall_mem_nil _
  have ends : (Lexeme.number x).Ends [] := by rintro c ⟨⟩
  have first := Scanner.next_of_writes 0 noGap (.digits read) ends
  have last := Scanner.next_of_blank (digitChars number).length noGap
  simp only [List.nil_append, List.append_nil, List.length_nil, Nat.add_zero, Nat.zero_add] at first last
  rw [scanText_eq_ok_iff, Scanner.ofText, String.toList_ofList,
    Scanner.run_of_token first Kind.noConfusion, Scanner.run_of_end last rfl]
  exact ⟨rfl, rfl⟩

/-! ### Reading to the nearest -/

namespace DigitRun

/-- How a run of digits is read. -/
structure ReadsNearest (run : DigitRun) : Prop where
  /-- It is refused if and only if it spells 2^1024 - 2^970 or more, and the refusal tells the offset and
  the length of the run. -/
  refused : ∀ e, run.read = .error e ↔ 2 ^ 1024 - 2 ^ 970 ≤ run.value ∧ e = run.refusal
  message : run.refusal.diagnostic =
    ⟨.lexical, s!"number literal too large ({run.chars.length} digits)", some run.start⟩
  /-- Otherwise it is read as the number that is nearest to what it spells, and of two equally near ones
  as the even one. -/
  accepted : ∀ token, run.read = .ok token ↔
    run.value < 2 ^ 1024 - 2 ^ 970 ∧ ∃ x, IsNearest run.value x ∧ token = ⟨.number x, run.start⟩
  /-- Zeros in front change neither whether it is read nor what it is read as. -/
  zeros : ∀ zeros (longer : DigitRun), longer.chars = List.replicate zeros '0' ++ run.chars →
    ∀ x, longer.Accepts x ↔ run.Accepts x
  /-- A run that spells a larger number is read as no lower value. -/
  monotone : ∀ (larger : DigitRun) x y value value', run.value ≤ larger.value → run.Accepts x →
    larger.Accepts y → rational? x = some value → rational? y = some value' → value ≤ value'
  /-- What it spells is the value up to 2^53. -/
  exact : run.value ≤ 2 ^ 53 → ∃ x, run.Accepts x ∧ rational? x = some (run.value : ℚ)
  /-- The number that was read is an integer, its literal is all digits of it, and these are scanned to
  the same number. -/
  printed : ∀ x, run.Accepts x → ∃ number : Nat, rational? x = some (number : ℚ) ∧
    literalText x = String.ofList (digitChars number) ∧
    scanText (literalText x) = .ok [⟨.number x, 0⟩, ⟨.endOfInput, (literalText x).length⟩]

/-- **Number literals are read exactly up to one rounding.** -/
theorem nearest (run : DigitRun) : run.ReadsNearest where
  refused e := by
    show _ ↔ overflow ≤ run.value ∧ e = run.refusal
    rw [← Binary64.ofNatural?_eq_none_iff, read_eq]
    cases ofNatural? run.value with
    | some x => exact iff_of_false (fun same => nomatch same) (fun both => nomatch both.1)
    | none =>
      rw [Option.elim_none, Except.error.injEq, and_iff_right rfl]
      exact eq_comm
  message := by
    show Diagnostic.lexical _ _ (some s!"number literal too large ({run.chars.length} digits)") = _
    have filled : s!"number literal too large ({run.chars.length} digits)" ≠ "" := by
      intro empty
      have nothing := congrArg String.toList empty
      simp only [String.toList_append] at nothing
      cases (List.append_eq_nil_iff.mp (List.append_eq_nil_iff.mp nothing).1).1
    rw [Diagnostic.lexical, Diagnostic.worded, if_neg filled]
    rfl
  accepted token := by
    show _ ↔ run.value < overflow ∧ ∃ x, IsNearest run.value x ∧ token = ⟨.number x, run.start⟩
    rw [read_eq]
    cases found : ofNatural? run.value with
    | none =>
      have large := Binary64.ofNatural?_eq_none_iff.mp found
      exact iff_of_false (fun same => nomatch same) fun both => Nat.not_lt.mpr large both.1
    | some x =>
      obtain ⟨less, nearest⟩ := Binary64.ofNatural?_eq_some_iff_isNearest.mp found
      rw [Option.elim_some, Except.ok.injEq]
      constructor
      · rintro rfl
        exact ⟨less, x, nearest, rfl⟩
      · rintro ⟨-, y, nearestToo, rfl⟩
        have same := Binary64.ofNatural?_eq_some_iff_isNearest.mpr ⟨less, nearestToo⟩
        rw [Option.some.inj (found.symm.trans same)]
  zeros zeros longer same x := by
    have value : longer.value = run.value := by
      rw [DigitRun.value, same, naturalOf_zeros, DigitRun.value]
    rw [accepts_iff, accepts_iff, value]
  monotone larger x y value value' order first second :=
    Binary64.rational?_le_of_ofNatural? order (accepts_iff.mp first) (accepts_iff.mp second)
  exact small := by
    obtain ⟨x, read, valued⟩ := Binary64.ofNatural?_of_le small
    exact ⟨x, accepts_iff.mpr read, valued⟩
  printed x accepts := by
    have whole := Binary64.isWhole_iff.mpr ⟨_, accepts_iff.mp accepts⟩
    obtain ⟨number, valued, literal, read⟩ := whole.exists_value
    refine ⟨number, valued, literal, ?_⟩
    rw [literal, String.length_ofList]
    exact scanText_literal read

/-- Half way between two numbers a run is read as the even one, and a one with 309 zeros is refused. -/
theorem nearest_halfway :
    let halfway : DigitRun := ⟨0, [' '], '9', "007199254740993".toList, [';'],
      List.all_eq_true.mp rfl, List.all_eq_true.mp rfl, by rintro c ⟨⟩; rfl⟩
    let large : DigitRun := ⟨2, [], '1', List.replicate 309 '0', [],
      nofun, List.all_eq_true.mp (by decide +kernel), nofun⟩
    (∃ x, halfway.read = .ok ⟨.number x, 1⟩ ∧ IsNearest 9007199254740993 x ∧
      rational? x = some 9007199254740992) ∧
    large.read = .error ⟨'1', 2, .numberTooLarge 310⟩ := by
  intro halfway large
  have spelled : halfway.value = 9007199254740993 := by decide +kernel
  have even : ofNatural? 9007199254740993 = ofNatural? 9007199254740992 := by decide +kernel
  have overflows : 2 ^ 1024 - 2 ^ 970 ≤ large.value := by decide +kernel
  have small : 9007199254740992 ≤ 2 ^ 53 := by decide
  obtain ⟨x, read, valued⟩ := Binary64.ofNatural?_of_le small
  have accepts : halfway.Accepts x :=
    accepts_iff.mpr ((congrArg ofNatural? spelled).trans (even.trans read))
  obtain ⟨-, y, near, token⟩ := (halfway.nearest.accepted _).mp accepts
  cases token
  rw [spelled] at near
  have said : large.refusal = ⟨'1', 2, .numberTooLarge 310⟩ := by decide +kernel
  exact ⟨⟨x, accepts, near, valued⟩, (large.nearest.refused _).mpr ⟨overflows, said.symm⟩⟩

end DigitRun

end Calculator
