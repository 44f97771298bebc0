/-
**Tokens as plain records, and their canonical text.**

* `TokenRecord`: a class, a payload and an offset that need not fit each other.
* `TokenRecord.display`: the record in full, for inspection.
* `canonicalText`: the tokens up to the end of input, parted by single spaces.

A number is written as an integer, in all its digits; a name as it is; a symbol by its character,
whatever its payload says.
-/

import Calculator.Token.Scanner

namespace Calculator

open Text (quoted)

/-! ### Records -/

/-- What a record carries beside its class. -/
inductive Payload where
  | number (value : Float)
  | text (value : String)
  | absent
  deriving DecidableEq

/-- A token whose parts were put together freely. -/
structure TokenRecord where
  kind : Kind
  payload : Payload
  position : Int
  deriving DecidableEq

/-- What a lexeme carries beside its class. -/
def Lexeme.payload : Lexeme → Payload
  | .number value => .number value
  | .identifier name => .text name
  | .symbol which => .text (String.singleton which.char)
  | .endOfInput => .absent

/-- The record of a token. -/
def Token.record (token : Token) : TokenRecord :=
  ⟨token.kind, token.lexeme.payload, token.position⟩

namespace TokenRecord

/-! ### Payloads -/

/-- A payload is not of the sort that was asked for. -/
inductive PayloadError where
  | notNumeric (kind : Kind)
  | notText (kind : Kind)
  deriving DecidableEq, Repr

/-- The failure in words. -/
def PayloadError.text : PayloadError → String
  | .notNumeric kind => s!"{kind.label} token has no numeric value"
  | .notText kind => s!"{kind.label} token has no text value"

/-- The payload as a number. -/
def number (r : TokenRecord) : Except PayloadError Float :=
  match r.payload with
  | .number value => .ok value
  | _ => .error (.notNumeric r.kind)

/-- The payload as a text. -/
def text (r : TokenRecord) : Except PayloadError String :=
  match r.payload with
  | .text value => .ok value
  | _ => .error (.notText r.kind)

/-- The payload for inspection. -/
def Payload.display : Payload → String
  | .number value => Binary64.text value
  | .text value => quoted value
  | .absent => "None"

/-- The record in full. -/
def display (r : TokenRecord) : String :=
  s!"Token({r.kind.label}, {Payload.display r.payload}, pos={r.position})"

/-! ### Canonical text -/

/-- Why a record has no canonical spelling. -/
inductive SpellingError where
  | payload (error : PayloadError)
  | noInteger (reason : Binary64.NoInteger)
  deriving DecidableEq, Repr

/-- A record as it stands in a source. -/
def spelling (r : TokenRecord) : Except SpellingError String :=
  match r.kind with
  | .number => do
    let value ← r.number.mapError .payload
    (Binary64.truncatedText value).mapError .noInteger
  | .identifier => r.text.mapError .payload
  | .symbol which => .ok (String.singleton which.char)
  | .endOfInput => .ok ""

/-- The spellings of the records before the first end of input. -/
def spellings : List TokenRecord → Except SpellingError (List String)
  | [] => .ok []
  | r :: rest => do
    if r.kind = .endOfInput then return []
    let first ← r.spelling
    let more ← spellings rest
    return first :: more

end TokenRecord

/-- The source that these records spell, one space between any two. -/
def canonicalText (records : List TokenRecord) : Except TokenRecord.SpellingError String := do
  return " ".intercalate (← TokenRecord.spellings records)

end Calculator
