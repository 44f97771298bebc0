/-
**Layout has no part in what a text means.**

* `Word.SameButSpelling`: two words are the same, or they are numbers of the same value.
* `ReadAlike`: two texts are parsed to the same program, or to the same refusal of the tokens at one
  index, each reported where the token stands.
* `Course.verdict_alike`: tokens that say the same come to the same, whatever their positions.
* `runText_layout`: two texts whose tokens say the same differ in blanks and in the spelling of numbers
  alone; they are parsed alike and run alike.

The position of a token is read in one place, where the refusal of the token is reported, and goes
nowhere but into the report.
-/

import Calculator.Proofs.Reading.Verdict
import Calculator.Proofs.Token.Munch
import Calculator.Report

namespace Calculator

/-! ### Words that say the same -/

/-- The words say the same, and in the same characters unless they are numbers. -/
structure Word.SameButSpelling (word word' : Word) : Prop where
  lexeme : word.token.lexeme = word'.token.lexeme
  chars : word.chars = word'.chars ∨ word.token.kind = .number

/-- A token that is no number is written in one way. -/
theorem Lexeme.Writes.chars_eq {lexeme : Lexeme} {chars chars' : List Char}
    (writes : lexeme.Writes chars) (writes' : lexeme.Writes chars') :
    chars = chars' ∨ lexeme.kind = .number := by
  cases lexeme with
  | number => exact .inr rfl
  | identifier name =>
    have spelled {chars : List Char} (writes : (Lexeme.identifier name).Writes chars) :
        name.toList = chars := by
      cases writes with
      | identifier => exact String.toList_ofList
    exact .inl ((spelled writes).symm.trans (spelled writes'))
  | symbol which =>
    cases writes
    cases writes'
    exact .inl rfl
  | endOfInput => cases writes

section Words

variable {source source' : String} {tokens tokens' : List Token}

/-- The two texts are taken up by words of which those at the same index say the same, in the same
characters unless they are numbers; outside the words there are only blanks. -/
def SameWords (source source' : String) : Prop :=
  ∃ words words', Munched source.toList 0 words source.length ∧
    Munched source'.toList 0 words' source'.length ∧ words.length = words'.length ∧
    ∀ (index : Nat) (word word' : Word), words[index]? = some word → words'[index]? = some word' →
      word.SameButSpelling word'

/-- **Texts whose tokens say the same differ in blanks and in the spelling of numbers alone.** -/
theorem sameWords_of_lexemes (scanned : scanText source = .ok tokens)
    (scanned' : scanText source' = .ok tokens')
    (same : tokens.map Token.lexeme = tokens'.map Token.lexeme) : SameWords source source' := by
  obtain ⟨words, munched, rfl⟩ := exists_words_of_scanText scanned
  obtain ⟨words', munched', rfl⟩ := exists_words_of_scanText scanned'
  rw [List.map_append, List.map_append] at same
  have lexemes := (List.append_inj' same rfl).1
  have length := congrArg List.length lexemes
  simp only [List.length_map] at length
  refine ⟨words, words', munched, munched', length, fun index word word' here here' => ?_⟩
  have told := congrArg (·[index]?) lexemes
  simp only [List.getElem?_map, here, here', Option.map_some, Option.some.injEq] at told
  have writes := (munched.stands word (List.mem_of_getElem? here)).writes
  have writes' := (munched'.stands word' (List.mem_of_getElem? here')).writes
  rw [← told] at writes'
  exact ⟨told, writes.chars_eq writes'⟩

end Words

/-! ### Parsing -/

/-- Two texts with these tokens are parsed to the same program, or to the same refusal of the tokens at
one index, each reported where the token stands. -/
inductive ReadAlike (tokens tokens' : List Token) :
    Except ReadError Program → Except ReadError Program → Prop
  | accepted (program : Program) : ReadAlike tokens tokens' (.ok program) (.ok program)
  | refused {index : Nat} {token token' : Token} (here : tokens[index]? = some token)
      (here' : tokens'[index]? = some token') (expected : Expectation) (actual : Kind)
      (depthLimit : Option Int) :
      ReadAlike tokens tokens'
        (.error (.syntactic ⟨expected, actual, token.position, depthLimit⟩))
        (.error (.syntactic ⟨expected, actual, token'.position, depthLimit⟩))

/-- Tokens in front move the index, and nothing else. -/
theorem ReadAlike.cons {tokens tokens' : List Token} {result result' : Except ReadError Program}
    (alike : ReadAlike tokens tokens' result result') (token token' : Token) :
    ReadAlike (token :: tokens) (token' :: tokens') result result' := by
  cases alike with
  | accepted program => exact .accepted program
  | @refused index _ _ here here' expected actual depthLimit =>
    have behind : (token :: tokens)[index + 1]? = some _ := here
    have behind' : (token' :: tokens')[index + 1]? = some _ := here'
    exact .refused behind behind' expected actual depthLimit

/-- **Tokens that say the same come to the same**, whatever their positions. -/
theorem Course.verdict_alike {limit : Int} (course : Course) {tokens tokens' : List Token}
    (same : tokens.map Token.lexeme = tokens'.map Token.lexeme) :
    Option.Rel (ReadAlike tokens tokens') (course.verdict limit none tokens)
      (course.verdict limit none tokens') := by
  induction tokens generalizing course tokens' with
  | nil =>
    obtain rfl := List.map_eq_nil_iff.mp same.symm
    exact .none
  | cons token rest ih =>
    obtain ⟨token', rest', rfl, lexeme, others⟩ := List.map_eq_cons_iff.mp same.symm
    rw [verdict, verdict, lexeme]
    cases course.move limit token.lexeme with
    | shift next =>
      show Option.Rel _ (next.verdict limit none rest) (next.verdict limit none rest')
      have behind := ih next others.symm
      generalize next.verdict limit none rest = result at *
      generalize next.verdict limit none rest' = result' at *
      cases behind with
      | none => exact .none
      | some alike => exact .some (alike.cons token token')
    | stop program => exact .some (.accepted program)
    | refuse expected depthLimit =>
      have here : (token :: rest)[0]? = some token := rfl
      have here' : (token' :: rest')[0]? = some token' := rfl
      have kind : token'.kind = token.kind := congrArg Lexeme.kind lexeme
      dsimp only
      rw [kind]
      exact .some (.refused here here' expected token.kind depthLimit)

section Texts

variable {source source' : String} {tokens tokens' : List Token}
  (scanned : scanText source = .ok tokens) (scanned' : scanText source' = .ok tokens')
  (same : tokens.map Token.lexeme = tokens'.map Token.lexeme)

include scanned scanned' same

/-- **Texts whose tokens say the same are parsed alike.** -/
theorem Program.parse_alike (limit : Int) :
    ReadAlike tokens tokens' (parse limit source) (parse limit source') := by
  obtain ⟨fine, tokensEq⟩ := scanText_eq_ok_iff.mp scanned
  obtain ⟨fine', tokensEq'⟩ := scanText_eq_ok_iff.mp scanned'
  have parsed := parse_eq_verdict limit source
  have parsed' := parse_eq_verdict limit source'
  rw [fine, tokensEq] at parsed
  rw [fine', tokensEq'] at parsed'
  have alike := @Course.verdict_alike limit (.between []) tokens tokens' same
  rw [← parsed, ← parsed'] at alike
  cases alike with
  | some alike => exact alike

/-! ### Running -/

/-- Texts whose tokens say the same are run to the same report, or to the same refusal of the tokens at
one index. -/
theorem runText_alike (settings : Settings) :
    runText settings source = runText settings source' ∨
    ∃ (index : Nat) (token token' : Token) (text : String),
      tokens[index]? = some token ∧ tokens'[index]? = some token' ∧
        runText settings source = .failed ⟨.syntactic, text, some token.position⟩ ∧
        runText settings source' = .failed ⟨.syntactic, text, some token'.position⟩ := by
  have alike := Program.parse_alike scanned scanned' same settings.maxDepth.val
  unfold runText Program.read
  generalize Program.parse settings.maxDepth.val source = result at *
  generalize Program.parse settings.maxDepth.val source' = result' at *
  cases alike with
  | accepted program => exact .inl rfl
  | refused here here' expected actual depthLimit =>
    exact .inr ⟨_, _, _, _, here, here', rfl, rfl⟩

/-- **Layout has no part in what a text means.** Texts whose tokens say the same differ in blanks and in
the spelling of numbers alone. They are parsed to the same program, or to the same refusal, in the same
words, of the tokens at one index. Running them gives the same success, value, stage and bindings, and
the same message but for the position of those tokens. -/
theorem runText_layout (settings : Settings) :
    SameWords source source' ∧
    ReadAlike tokens tokens' (Program.read settings source) (Program.read settings source') ∧
    (∀ e e', Program.read settings source = .error e → Program.read settings source' = .error e' →
      e.diagnostic.text = e'.diagnostic.text) ∧
    let report := runText settings source
    let report' := runText settings source'
    report.success = report'.success ∧ report.value? = report'.value? ∧
      report.stage? = report'.stage? ∧ report.bindings = report'.bindings ∧
      (report.error? = report'.error? ∨
        ∃ (index : Nat) (token other : Token) (text : String),
          tokens[index]? = some token ∧ tokens'[index]? = some other ∧
            report.error? = some s!"Syntax error at position {token.position}: {text}" ∧
            report'.error? = some s!"Syntax error at position {other.position}: {text}") := by
  have alike := Program.parse_alike scanned scanned' same settings.maxDepth.val
  refine ⟨sameWords_of_lexemes scanned scanned' same, alike, fun e e' failed failed' => ?_, ?_⟩
  · change Program.parse settings.maxDepth.val source = .error e at failed
    change Program.parse settings.maxDepth.val source' = .error e' at failed'
    rw [failed, failed'] at alike
    cases alike
    rfl
  · rcases runText_alike scanned scanned' same settings with
      equal | ⟨index, token, token', text, here, here', failed, failed'⟩
    · dsimp only
      rw [equal]
      exact ⟨rfl, rfl, rfl, rfl, .inl rfl⟩
    · dsimp only
      rw [failed, failed']
      exact ⟨rfl, rfl, rfl, rfl, .inr ⟨index, token, token', text, here, here', rfl, rfl⟩⟩

end Texts

/-- A parenthesis that nothing opened is refused in both texts, behind two characters of the one and behind
three of the other. -/
theorem runText_layout_refused :
    let tokens := (Scanner.ofText "7 )").run.tokens
    let tokens' := (Scanner.ofText "007)").run.tokens
    scanText "7 )" = .ok tokens ∧ scanText "007)" = .ok tokens' ∧
      tokens.map Token.lexeme = tokens'.map Token.lexeme ∧
      (tokens.map Token.position = [0, 2, 3] ∧ tokens'.map Token.position = [0, 3, 4]) ∧
      ReadAlike tokens tokens' (Program.read .standard "7 )") (Program.read .standard "007)") ∧
      (runText .standard "7 )").stage? = (runText .standard "007)").stage? := by
  have scanned : scanText "7 )" = .ok (Scanner.ofText "7 )").run.tokens :=
    scanText_eq_ok_iff.mpr ⟨by decide +kernel, rfl⟩
  have scanned' : scanText "007)" = .ok (Scanner.ofText "007)").run.tokens :=
    scanText_eq_ok_iff.mpr ⟨by decide +kernel, rfl⟩
  have same : (Scanner.ofText "7 )").run.tokens.map Token.lexeme =
      (Scanner.ofText "007)").run.tokens.map Token.lexeme := by decide +kernel
  obtain ⟨-, alike, -, -, -, stage, -⟩ := runText_layout scanned scanned' same .standard
  exact ⟨scanned, scanned', same, ⟨by decide +kernel, by decide +kernel⟩, alike, stage⟩

end Calculator
