/-
**Renaming the names of a text.**

* `isIdentifier`: the characters of a text make one name; `Renaming`: an injective map of names to names.
* `Renaming.text`: a text with each of its names replaced in its place, and nothing else.
* `Renaming.run_text`: **the renamed text is scanned to the renamed tokens**, or it fails like the text.

What stands behind a token has the same first character in both texts, or a letter in both, so a token
that ends in the one ends in the other.
-/

import Mathlib.Logic.Equiv.Basic
import Calculator.Proofs.Token.Moved

namespace Calculator

open Text (isBlank)

/-! ### Names -/

/-- The characters of the text make one name: a letter first, and then letters, digits and underscores. -/
def isIdentifier (name : String) : Bool :=
  match name.toList with
  | [] => false
  | first :: more => first.isAlpha && more.all Scanner.isNameChar

theorem isIdentifier_iff {name : String} :
    isIdentifier name = true ↔ (Lexeme.identifier name).Writes name.toList := by
  unfold isIdentifier
  constructor
  · intro valid
    split at valid
    · cases valid
    · next first more chars =>
      rw [Bool.and_eq_true, List.all_eq_true] at valid
      obtain rfl : name = String.ofList (first :: more) := by rw [← chars, String.ofList_toList]
      rw [chars]
      exact .identifier valid.1 valid.2
  · intro writes
    generalize same : name.toList = chars at writes
    cases writes with
    | identifier letter rest => exact Bool.and_eq_true_iff.mpr ⟨letter, List.all_eq_true.mpr rest⟩

/-- A name is written in its own characters. -/
theorem Lexeme.Writes.identifier_iff {name : String} {chars : List Char} :
    (Lexeme.identifier name).Writes chars ↔ isIdentifier name = true ∧ chars = name.toList := by
  rw [isIdentifier_iff]
  constructor
  · intro writes
    cases writes with
    | identifier letter rest =>
      rw [String.toList_ofList]
      exact ⟨.identifier letter rest, rfl⟩
  · rintro ⟨writes, rfl⟩
    exact writes

/-- A map of names to names that keeps different names apart. -/
structure Renaming where
  map : {name : String // isIdentifier name = true} → {name : String // isIdentifier name = true}
  injective : Function.Injective map

namespace Renaming

variable (r : Renaming)

/-- The new name for a name; what is no name stays. -/
def name (old : String) : String := if valid : isIdentifier old = true then r.map ⟨old, valid⟩ else old

theorem isIdentifier_name {old : String} (valid : isIdentifier old = true) :
    isIdentifier (r.name old) = true := by
  rw [name, dif_pos valid]
  exact (r.map ⟨old, valid⟩).2

/-- **Different names stay different.** -/
theorem name_injective : Function.Injective r.name := by
  intro first second same
  by_cases valid : isIdentifier first = true <;> by_cases valid' : isIdentifier second = true
  · rw [name, name, dif_pos valid, dif_pos valid'] at same
    exact congrArg Subtype.val (r.injective (Subtype.ext same))
  · have moved := r.isIdentifier_name valid
    rw [same, name, dif_neg valid'] at moved
    exact absurd moved valid'
  · have moved := r.isIdentifier_name valid'
    rw [← same, name, dif_neg valid] at moved
    exact absurd moved valid
  · rwa [name, name, dif_neg valid, dif_neg valid'] at same

/-! ### Tokens and texts -/

/-- A token with its name replaced. -/
def lexeme : Lexeme → Lexeme
  | .identifier old => .identifier (r.name old)
  | other => other

/-- The rest of a text behind an offset, with each name among the tokens replaced in its place. -/
def respell (offset : Nat) (rest : List Char) : List Token → List Char
  | [] => rest
  | token :: tokens =>
    let before := rest.take (token.position - offset)
    let behind := rest.drop (token.position - offset)
    match token.lexeme with
    | .identifier old =>
      before ++ (r.name old).toList ++
        respell (token.position + old.length) (behind.drop old.length) tokens
    | _ => before ++ respell token.position behind tokens

/-- The text with each of its names replaced. -/
def text (source : String) : String :=
  String.ofList (r.respell 0 source.toList (Scanner.ofText source).run.tokens)

/-- The characters of a token with its name replaced. -/
def chars (lexeme : Lexeme) (old : List Char) : List Char :=
  match lexeme with
  | .identifier name => (r.name name).toList
  | _ => old

/-- The new token is written in the new characters. -/
theorem writes_chars {lexeme : Lexeme} {old : List Char} (writes : lexeme.Writes old) :
    (r.lexeme lexeme).Writes (r.chars lexeme old) := by
  cases lexeme with
  | identifier name =>
    have valid := (Lexeme.Writes.identifier_iff.mp writes).1
    exact isIdentifier_iff.mp (r.isIdentifier_name valid)
  | number | symbol | endOfInput => exact writes

theorem kind_lexeme (lexeme : Lexeme) : (r.lexeme lexeme).kind = lexeme.kind := by
  cases lexeme <;> rfl

end Renaming

/-! ### What comes next -/

/-- Behind some blanks the text ends, a token is read that is written there, or no token is. -/
theorem Scanner.next_cases (s : Scanner) :
    ((∀ c ∈ s.rest, isBlank c = true) ∧
      s.next = (.ok ⟨.endOfInput, s.offset + s.rest.length⟩, ⟨s.offset + s.rest.length, []⟩)) ∨
    (∃ lexeme gap chars rest, s.rest = gap ++ (chars ++ rest) ∧ (∀ c ∈ gap, isBlank c = true) ∧
      lexeme.Writes chars ∧ lexeme.Ends rest ∧
      s.next = (.ok ⟨lexeme, s.offset + gap.length⟩, ⟨s.offset + gap.length + chars.length, rest⟩)) ∨
    ∃ e after, s.next = (.error e, after) := by
  obtain ⟨offset, rest⟩ := s
  rcases exists_next rest 0 with ends | ⟨word, stands, low, blank⟩ | ⟨e, stuck, low, blank⟩
  · obtain ⟨gap, whole, -, white⟩ := ends.exists_gap (Nat.zero_le _) (Nat.le_refl _)
    obtain rfl : rest = gap := by rwa [List.drop_zero, List.drop_length, List.append_nil] at whole
    exact .inl ⟨white, next_of_blank offset white⟩
  · have bound := Nat.le_of_lt (Nat.lt_of_lt_of_le stands.start_lt_stop stands.stop_le)
    obtain ⟨gap, whole, -, white⟩ := blank.exists_gap low bound
    have split : rest = gap ++ (word.chars ++ rest.drop word.stop) := by
      rwa [List.drop_zero, drop_of_found stands.found] at whole
    refine .inr (.inl ⟨word.token.lexeme, gap, word.chars, rest.drop word.stop, split, white,
      stands.writes, stands.longest, ?_⟩)
    exact (congrArg (fun rest => (Scanner.mk offset rest).next) split).trans
      (next_of_writes offset white stands.writes stands.longest)
  · obtain ⟨after, read⟩ := next_of_obstacle stuck
    have start := (next_atOffset low (Nat.le_of_lt stuck.position_lt) blank).trans read
    have moved := next_moved offset (atOffset rest 0)
    rw [start, Scanner.moved, atOffset, Nat.zero_add] at moved
    exact .inr (.inr ⟨_, _, moved⟩)

namespace Renaming

variable (r : Renaming)

/-! ### The new text piece by piece -/

/-- Characters before the first token stay where they are. -/
theorem respell_append {offset : Nat} {front rest : List Char} {tokens : List Token}
    (behind : ∀ token ∈ tokens.head?, offset + front.length ≤ token.position) :
    r.respell offset (front ++ rest) tokens = front ++ r.respell (offset + front.length) rest tokens := by
  cases tokens with
  | nil => rfl
  | cons token tokens =>
    obtain ⟨more, position⟩ := Nat.exists_eq_add_of_le (behind token rfl)
    have far : token.position - offset = front.length + more := by omega
    have near : token.position - (offset + front.length) = more := by omega
    rw [respell, respell, far, near, List.take_length_add_append, List.drop_length_add_append]
    cases token.lexeme <;> simp only [List.append_assoc]

/-- No token starts before the cursor. -/
theorem offset_le_position (s : Scanner) : ∀ token ∈ s.run.tokens.head?, s.offset ≤ token.position := by
  intro token first
  rcases s.next_cases with ⟨-, read⟩ | ⟨lexeme, gap, chars, rest, -, -, writes, -, read⟩ | ⟨e, after, read⟩
  · rw [Scanner.run_of_end read rfl] at first
    cases first
    exact Nat.le_add_right ..
  · rw [Scanner.run_of_token read (mt Lexeme.kind_eq_endOfInput_iff.mp writes.ne_endOfInput)] at first
    cases first
    exact Nat.le_add_right ..
  · rw [Scanner.run_of_error read] at first
    cases first

/-- The new rest of the text behind a cursor. -/
def rest (s : Scanner) : List Char := r.respell s.offset s.rest s.run.tokens

theorem rest_of_blank {s : Scanner} (blank : ∀ c ∈ s.rest, isBlank c = true) : r.rest s = s.rest := by
  have read := Scanner.next_of_blank s.offset blank
  rw [rest, Scanner.run_of_end read rfl, respell]
  dsimp only [respell]
  rw [Nat.add_sub_cancel_left, List.take_length, List.drop_length, List.append_nil]

theorem rest_of_error {s after : Scanner} {e : ScanError} (read : s.next = (.error e, after)) :
    r.rest s = s.rest := by
  rw [rest, Scanner.run_of_error read, respell]

/-- **A token is replaced where it stands**, and the text behind it on its own. -/
theorem rest_of_word {offset : Nat} {lexeme : Lexeme} {gap chars behind : List Char}
    (blank : ∀ c ∈ gap, isBlank c = true) (writes : lexeme.Writes chars) (ends : lexeme.Ends behind) :
    r.rest ⟨offset, gap ++ (chars ++ behind)⟩ =
      gap ++ (r.chars lexeme chars ++ r.rest ⟨offset + gap.length + chars.length, behind⟩) := by
  have read := Scanner.next_of_writes offset blank writes ends
  rw [rest, Scanner.run_of_token read (mt Lexeme.kind_eq_endOfInput_iff.mp writes.ne_endOfInput), respell]
  dsimp only
  rw [Nat.add_sub_cancel_left, List.take_left, List.drop_left]
  have later := offset_le_position ⟨offset + gap.length + chars.length, behind⟩
  cases lexeme with
  | identifier name =>
    obtain ⟨-, rfl⟩ := Lexeme.Writes.identifier_iff.mp writes
    dsimp only
    rw [← String.length_toList, List.drop_left, List.append_assoc]
    rfl
  | number | symbol | endOfInput =>
    dsimp only [Renaming.chars]
    rw [r.respell_append later]
    rfl

/-- The new rest starts like the old one, or both start with a letter. -/
theorem head_rest (s : Scanner) {c : Char} (first : c ∈ (r.rest s).head?) :
    c ∈ s.rest.head? ∨ (c.isAlpha = true ∧ ∃ d ∈ s.rest.head?, d.isAlpha = true) := by
  obtain ⟨offset, text⟩ := s
  rcases Scanner.next_cases ⟨offset, text⟩ with
    ⟨blank, -⟩ | ⟨lexeme, gap, chars, behind, split, blank, writes, ends, -⟩ | ⟨e, after, read⟩
  · rw [r.rest_of_blank blank] at first
    exact .inl first
  · obtain rfl : text = gap ++ (chars ++ behind) := split
    rw [r.rest_of_word blank writes ends] at first
    cases gap with
    | cons d gap => exact .inl first
    | nil =>
      cases lexeme with
      | identifier name =>
        have letters {name : String} {old : List Char} (writes : (Lexeme.identifier name).Writes old) :
            ∃ d more, old = d :: more ∧ d.isAlpha = true := by
          cases writes with
          | identifier letter => exact ⟨_, _, rfl, letter⟩
        obtain ⟨d, more, rfl, letter⟩ := letters writes
        obtain ⟨d', more', spelled, letter'⟩ := letters (r.writes_chars writes)
        rw [List.nil_append, spelled] at first
        cases first
        exact .inr ⟨letter', d, rfl, letter⟩
      | number | symbol | endOfInput =>
        obtain ⟨d, more, rfl, -⟩ := writes.exists_head
        exact .inl first
  · rw [r.rest_of_error read] at first
    exact .inl first

/-- A token that ends before the old rest ends before the new one. -/
theorem ends_rest {lexeme : Lexeme} {s : Scanner} (ends : lexeme.Ends s.rest) :
    (r.lexeme lexeme).Ends (r.rest s) := by
  cases lexeme with
  | number value =>
    intro c first
    rcases r.head_rest s first with same | ⟨letter, -⟩
    · exact ends c same
    · exact isDigit_of_isAlpha letter
  | identifier name =>
    intro c first
    rcases r.head_rest s first with same | ⟨-, d, same, letter⟩
    · exact ends c same
    · have name := ends d same
      rw [Scanner.isNameChar_of_isAlpha letter] at name
      cases name
  | symbol | endOfInput => exact True.intro

/-! ### Scanning the new text -/

/-- The two failures are the same but for their places. -/
def SameFault (e e' : ScanError) : Prop := e.character = e'.character ∧ e.fault = e'.fault

/-- **The new rest of a text is scanned to the new tokens**, or it fails like the old one. -/
theorem run_rest (s : Scanner) (offset : Nat) :
    (Scanner.mk offset (r.rest s)).run.tokens.map Token.lexeme =
        (s.run.tokens.map Token.lexeme).map r.lexeme ∧
      Option.Rel SameFault s.run.failure (Scanner.mk offset (r.rest s)).run.failure := by
  induction size : s.rest.length using Nat.strongRecOn generalizing s offset with
  | ind bound ih =>
    obtain ⟨start, text⟩ := s
    rcases Scanner.next_cases ⟨start, text⟩ with
      ⟨blank, read⟩ | ⟨lexeme, gap, chars, behind, split, blank, writes, ends, read⟩ | ⟨e, after, read⟩
    · rw [r.rest_of_blank blank, Scanner.run_of_end read rfl,
        Scanner.run_of_end (Scanner.next_of_blank offset blank) rfl]
      exact ⟨rfl, .none⟩
    · obtain rfl : text = gap ++ (chars ++ behind) := split
      have renamed := r.writes_chars writes
      have notEnd := mt Lexeme.kind_eq_endOfInput_iff.mp writes.ne_endOfInput
      have notEnd' := mt Lexeme.kind_eq_endOfInput_iff.mp renamed.ne_endOfInput
      have read' := Scanner.next_of_writes offset blank renamed
        (r.ends_rest (s := ⟨start + gap.length + chars.length, behind⟩) ends)
      obtain ⟨c, more, rfl, -⟩ := writes.exists_head
      have shorter : behind.length < bound := by
        simp only [List.length_append, List.length_cons] at size
        omega
      obtain ⟨tokens, failure⟩ := ih _ shorter ⟨start + gap.length + (c :: more).length, behind⟩
        (offset + gap.length + (r.chars lexeme (c :: more)).length) rfl
      rw [r.rest_of_word blank writes ends, Scanner.run_of_token read notEnd,
        Scanner.run_of_token read' notEnd']
      exact ⟨congrArg _ tokens, failure⟩
    · -- The rest is the same text here, and where it stands has no part in the fault.
      have moved (place : Nat) : (Scanner.mk place text).next =
          Scanner.movedRead place (Scanner.mk 0 text).next := by
        have far := Scanner.next_moved place ⟨0, text⟩
        rwa [Scanner.moved, Nat.zero_add] at far
      rcases first : (Scanner.mk 0 text).next with ⟨origin | token, reached⟩
      · rw [r.rest_of_error read, Scanner.run_of_error ((moved start).trans (congrArg _ first)),
          Scanner.run_of_error ((moved offset).trans (congrArg _ first))]
        exact ⟨rfl, .some ⟨rfl, rfl⟩⟩
      · rw [moved start, first] at read
        cases read

/-- **The renamed text is scanned to the renamed tokens**, or it fails like the text. -/
theorem run_text (source : String) :
    (Scanner.ofText (r.text source)).run.tokens.map Token.lexeme =
        ((Scanner.ofText source).run.tokens.map Token.lexeme).map r.lexeme ∧
      Option.Rel SameFault (Scanner.ofText source).run.failure
        (Scanner.ofText (r.text source)).run.failure := by
  have new : Scanner.ofText (r.text source) = ⟨0, r.rest (.ofText source)⟩ := by
    rw [Scanner.ofText, text, String.toList_ofList]
    rfl
  rw [new]
  exact r.run_rest (.ofText source) 0

/-- The renaming that exchanges two names. -/
def swap (first second : {name : String // isIdentifier name = true}) : Renaming where
  map := Equiv.swap first second
  injective := (Equiv.swap first second).injective

example : (swap ⟨"x", by decide⟩ ⟨"total", by decide⟩).text "x = 2x; xs/total" = "total = 2total; xs/x" := by
  decide +kernel

end Renaming

end Calculator
