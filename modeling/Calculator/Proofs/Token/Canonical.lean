/-
**The canonical text of tokens, scanned again.**

* `TokenRecord.content`: what a record says, wherever it stands.
* `TokenRecord.Proper`: a record that a source can spell; `Token.proper_record`: the tokens that are
  scanned have such records.
* `exists_spellings`: proper records are spelled by texts that write tokens, which say the same;
  `Written.of_spaced`: these texts write the tokens with single spaces between them.
* `canonicalText_scanned`: scanning and writing undo each other up to layout.

A space parts any two tokens of a canonical text, so no token can be read on into the next one, whatever
the two are.
-/

import Mathlib.Data.List.Forall2
import Calculator.Proofs.Binary64.Whole
import Calculator.Proofs.Token.Munch
import Calculator.Token.Record

namespace Calculator

/-! ### What records say -/

/-- The class and the payload of a lexeme. -/
def Lexeme.content (lexeme : Lexeme) : Kind × Payload := (lexeme.kind, lexeme.payload)

namespace TokenRecord

/-- What a record says, wherever it stands. -/
def content (r : TokenRecord) : Kind × Payload := (r.kind, r.payload)

/-- The record of the end of input. -/
def ending (position : Int) : TokenRecord := ⟨.endOfInput, .absent, position⟩

/-- A record that a source can spell: a natural number, not the negative zero; a name of ASCII letters,
digits and underscores that starts with a letter; or a symbol with its own character. -/
inductive Proper : TokenRecord → Prop
  | number {value : Float} (whole : Binary64.IsWhole value) (position : Int) :
      Proper ⟨.number, .number value, position⟩
  | identifier {first : Char} {more : List Char} (letter : first.isAlpha = true)
      (rest : ∀ c ∈ more, Scanner.isNameChar c = true) (position : Int) :
      Proper ⟨.identifier, .text (String.ofList (first :: more)), position⟩
  | symbol (which : Symbol) (position : Int) :
      Proper ⟨.symbol which, .text (String.singleton which.char), position⟩

variable {r r' : TokenRecord} {records records' : List TokenRecord}

/-- Where a record stands has no part in its spelling. -/
theorem spelling_congr (same : r.content = r'.content) : r.spelling = r'.spelling := by
  obtain ⟨kind, payload, position⟩ := r
  obtain ⟨kind', payload', position'⟩ := r'
  obtain ⟨rfl, rfl⟩ := Prod.mk.inj same
  rfl

theorem spellings_congr (same : records.map content = records'.map content) :
    spellings records = spellings records' := by
  induction records generalizing records' with
  | nil =>
    obtain rfl := List.map_eq_nil_iff.mp same.symm
    rfl
  | cons r rest ih =>
    obtain ⟨r', rest', rfl, here, others⟩ := List.map_eq_cons_iff.mp same.symm
    have kinds : r'.kind = r.kind := congrArg Prod.fst here
    rw [spellings, spellings, kinds, spelling_congr here, ih others.symm]

/-- Records that say the same have the same canonical text. -/
theorem canonicalText_congr (same : records.map content = records'.map content) :
    canonicalText records = canonicalText records' := by
  rw [canonicalText, canonicalText, spellings_congr same]

end TokenRecord

open TokenRecord (content ending spellings canonicalText_congr)

/-! ### From tokens to records -/

/-- A token that some characters write has a proper record. -/
theorem Lexeme.Writes.proper {token : Token} {chars : List Char}
    (writes : token.lexeme.Writes chars) : token.record.Proper := by
  obtain ⟨lexeme, position⟩ := token
  cases writes with
  | number _ _ read => exact .number (Binary64.isWhole_iff.mpr ⟨_, read⟩) position
  | identifier letter rest => exact .identifier letter rest position
  | symbol which => exact .symbol which position

/-- **The tokens that are scanned have proper records, and behind them the end of input.** -/
theorem Token.proper_record {source : String} {tokens : List Token}
    (scanned : scanText source = .ok tokens) :
    ∃ records position, tokens.map Token.record = records ++ [ending position] ∧
      ∀ r ∈ records, r.Proper := by
  obtain ⟨words, munched, rfl⟩ := exists_words_of_scanText scanned
  refine ⟨(words.map Word.token).map Token.record, source.length, List.map_append, ?_⟩
  rw [List.map_map, List.forall_mem_map]
  exact fun word member => (munched.stands word member).writes.proper

/-! ### From records to tokens -/

/-- A proper record is spelled by characters that write a token, which says the same. -/
theorem TokenRecord.Proper.exists_writes {r : TokenRecord} (proper : r.Proper) :
    ∃ (lexeme : Lexeme) (text : String), r.spelling = .ok text ∧ lexeme.Writes text.toList ∧
      lexeme.content = r.content := by
  cases proper with
  | @number value whole position =>
    obtain ⟨number, written, -, read⟩ := whole.exists_digits
    refine ⟨.number value, String.ofList (Binary64.digitChars number), ?_, ?_, rfl⟩
    · show (Binary64.truncatedText value).mapError _ = _
      rw [written]
      rfl
    · rw [String.toList_ofList]
      exact .digits read
  | @identifier first more letter rest position =>
    refine ⟨.identifier (String.ofList (first :: more)), _, rfl, ?_, rfl⟩
    rw [String.toList_ofList]
    exact .identifier letter rest
  | symbol which position =>
    refine ⟨.symbol which, _, rfl, ?_, rfl⟩
    rw [String.toList_singleton]
    exact .symbol which

/-- Proper records before the end of input are spelled by texts that write tokens, which say the
same. -/
theorem exists_spellings {records : List TokenRecord} (proper : ∀ r ∈ records, r.Proper)
    (position : Int) :
    ∃ (lexemes : List Lexeme) (texts : List String),
      spellings (records ++ [ending position]) = .ok texts ∧
        List.Forall₂ (fun lexeme text => lexeme.Writes text.toList) lexemes texts ∧
        lexemes.map Lexeme.content = records.map content := by
  induction records with
  | nil => exact ⟨[], [], rfl, .nil, rfl⟩
  | cons r rest ih =>
    obtain ⟨properHere, properRest⟩ := List.forall_mem_cons.mp proper
    obtain ⟨lexeme, text, spelled, writes, told⟩ := properHere.exists_writes
    obtain ⟨lexemes, texts, spelledRest, writesRest, same⟩ := ih properRest
    have notEnd : r.kind ≠ .endOfInput := by
      cases properHere <;> exact Kind.noConfusion
    refine ⟨lexeme :: lexemes, text :: texts, ?_, .cons writes writesRest, ?_⟩
    · rw [List.cons_append, spellings, if_neg notEnd, spelled, spelledRest]
      rfl
    · rw [List.map_cons, List.map_cons, told, same]

/-- **Texts that write tokens do so with single spaces between them**, whatever tokens they write. -/
theorem Written.of_spaced {lexemes : List Lexeme} {texts : List String}
    (writes : List.Forall₂ (fun lexeme text => lexeme.Writes text.toList) lexemes texts) :
    Written lexemes (" ".intercalate texts).toList := by
  induction writes with
  | nil => exact .empty
  | @cons lexeme text lexemes texts here rest ih =>
    cases rest with
    | nil =>
      have ends : lexeme.Apart [] := Lexeme.apart_of_stops (by rintro c ⟨⟩)
      have alone := Written.token here ends .empty
      rw [List.append_nil] at alone
      rwa [String.intercalate_singleton]
    | @cons next nextText lexemes texts =>
      have parted : lexeme.Apart (' ' :: (" ".intercalate (nextText :: texts)).toList) :=
        Lexeme.apart_of_stops (by rintro c ⟨⟩; rfl)
      have whole := Written.token here parted ih.space
      rw [String.intercalate_cons_cons, String.toList_append, String.toList_append, List.append_assoc]
      exact whole

/-! ### There and back -/

/-- Proper records have a canonical text, which is scanned to tokens that say the same. -/
theorem exists_scanned {records : List TokenRecord} (proper : ∀ r ∈ records, r.Proper)
    (position : Int) :
    ∃ text tokens, canonicalText (records ++ [ending position]) = .ok text ∧
      scanText text = .ok tokens ∧
      (tokens.map Token.record).map content = (records ++ [ending position]).map content := by
  obtain ⟨lexemes, texts, spelled, writes, same⟩ := exists_spellings proper position
  obtain ⟨tokens, scanned, found⟩ := (Written.of_spaced writes).scanText_eq_ok
  refine ⟨_, tokens, ?_, scanned, ?_⟩
  · rw [canonicalText, spelled]
    rfl
  have told : content ∘ Token.record = Lexeme.content ∘ Token.lexeme := rfl
  rw [List.map_map, told, ← List.map_map, found, List.map_append, List.map_append, same]
  rfl

/-- **Scanning and writing undo each other up to layout.** Proper records, in any order and with the end
of input behind them, have a canonical text, which is scanned to tokens that say the same. The tokens of
a text that can be scanned have such records; so they have a canonical text, it is scanned to tokens that
say the same, and these are written as that text again. -/
theorem canonicalText_scanned :
    (∀ (records : List TokenRecord) (position : Int), (∀ r ∈ records, r.Proper) →
      ∃ text tokens, canonicalText (records ++ [ending position]) = .ok text ∧
        scanText text = .ok tokens ∧
        (tokens.map Token.record).map content = (records ++ [ending position]).map content) ∧
    ∀ (source : String) (tokens : List Token), scanText source = .ok tokens →
      (∃ records position, tokens.map Token.record = records ++ [ending position] ∧
        ∀ r ∈ records, r.Proper) ∧
      ∃ text again, canonicalText (tokens.map Token.record) = .ok text ∧
        scanText text = .ok again ∧
        (again.map Token.record).map content = (tokens.map Token.record).map content ∧
        canonicalText (again.map Token.record) = .ok text := by
  refine ⟨fun records position proper => exists_scanned proper position, fun source tokens scanned => ?_⟩
  obtain ⟨records, position, split, proper⟩ := Token.proper_record scanned
  obtain ⟨text, again, spelled, scannedAgain, same⟩ := exists_scanned proper position
  rw [← split] at spelled same
  refine ⟨⟨records, position, split, proper⟩, text, again, spelled, scannedAgain, same, ?_⟩
  rw [canonicalText_congr same, spelled]

/-- A closing parenthesis before a name, which no program has, comes back; and a number that is not read
exactly is written with other digits than it was read from, in front of the name that followed it at
once. -/
theorem canonicalText_scanned_rounded :
    (∃ tokens,
      canonicalText [⟨.symbol .rightParen, .text ")", 5⟩, ⟨.identifier, .text "x", 5⟩, ending 0] =
          .ok ") x" ∧
        scanText ") x" = .ok tokens ∧ (tokens.map Token.record).map content =
          [(.symbol .rightParen, .text ")"), (.identifier, .text "x"), (.endOfInput, .absent)]) ∧
    ∃ tokens again, scanText "9007199254740993x" = .ok tokens ∧
      canonicalText (tokens.map Token.record) = .ok "9007199254740992 x" ∧
      scanText "9007199254740992 x" = .ok again ∧
      (again.map Token.record).map content = (tokens.map Token.record).map content ∧
      canonicalText (again.map Token.record) = .ok "9007199254740992 x" := by
  constructor
  · have proper : ∀ r ∈ [⟨.symbol .rightParen, .text ")", 5⟩, ⟨.identifier, .text "x", 5⟩],
        TokenRecord.Proper r := by
      refine List.forall_mem_cons.mpr ⟨.symbol .rightParen 5, List.forall_mem_singleton.mpr ?_⟩
      exact .identifier rfl (List.forall_mem_nil _) 5
    obtain ⟨text, tokens, spelled, scanned, same⟩ := canonicalText_scanned.1 _ 0 proper
    obtain rfl : ") x" = text := Except.ok.inj spelled
    exact ⟨tokens, rfl, scanned, same⟩
  · have scanned : scanText "9007199254740993x" =
        .ok (Scanner.ofText "9007199254740993x").run.tokens :=
      scanText_eq_ok_iff.mpr ⟨by decide +kernel, rfl⟩
    have written : canonicalText ((Scanner.ofText "9007199254740993x").run.tokens.map Token.record) =
        .ok "9007199254740992 x" := by decide +kernel
    obtain ⟨-, text, again, spelled, scannedAgain, same, spelledAgain⟩ :=
      canonicalText_scanned.2 _ _ scanned
    obtain rfl := Except.ok.inj (written.symm.trans spelled)
    exact ⟨_, again, scanned, written, scannedAgain, same, spelledAgain⟩

end Calculator
