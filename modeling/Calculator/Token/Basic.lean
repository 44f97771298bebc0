/-
**Tokens.**

* `Symbol`: the tokens of one fixed character.
* `Lexeme`: what a token says; `Token`: a lexeme and the offset where it starts.
* `Kind`: the class of a lexeme, which is all that the grammar and its messages name.
* `Symbol.ofChar?_eq_some_iff`: a symbol is read from its own character and from no other.
-/

namespace Calculator

/-! ### Symbols -/

/-- The tokens of one fixed character. -/
inductive Symbol where
  | assign
  | plus
  | minus
  | star
  | slash
  | leftParen
  | rightParen
  | semicolon
  deriving DecidableEq, Repr

namespace Symbol

/-- The character of a symbol. -/
def char : Symbol → Char
  | .assign => '='
  | .plus => '+'
  | .minus => '-'
  | .star => '*'
  | .slash => '/'
  | .leftParen => '('
  | .rightParen => ')'
  | .semicolon => ';'

/-- The symbol of a character. -/
def ofChar? : Char → Option Symbol
  | '=' => some .assign
  | '+' => some .plus
  | '-' => some .minus
  | '*' => some .star
  | '/' => some .slash
  | '(' => some .leftParen
  | ')' => some .rightParen
  | ';' => some .semicolon
  | _ => none

theorem ofChar?_eq_some_iff {c : Char} {symbol : Symbol} :
    ofChar? c = some symbol ↔ c = symbol.char := by
  constructor
  · intro read
    unfold ofChar? at read
    split at read <;> cases read <;> rfl
  · rintro rfl
    cases symbol <;> rfl

/-- The name of a symbol in messages. -/
def label : Symbol → String
  | .assign => "ASSIGN"
  | .plus => "PLUS"
  | .minus => "MINUS"
  | .star => "STAR"
  | .slash => "SLASH"
  | .leftParen => "LPAREN"
  | .rightParen => "RPAREN"
  | .semicolon => "SEMICOLON"

end Symbol

/-! ### Kinds -/

/-- The classes of tokens. -/
inductive Kind where
  | number
  | identifier
  | symbol (which : Symbol)
  | endOfInput
  deriving DecidableEq, Repr

namespace Kind

/-- The name of a class in messages. -/
def label : Kind → String
  | .number => "NUMBER"
  | .identifier => "IDENTIFIER"
  | .symbol which => which.label
  | .endOfInput => "END_OF_INPUT"

/-- Every class, in the order of the grammar's alphabet. -/
def all : List Kind := [
  .number, .identifier, .symbol .assign, .symbol .plus, .symbol .minus, .symbol .star,
  .symbol .slash, .symbol .leftParen, .symbol .rightParen, .symbol .semicolon, .endOfInput]

/-- The class with this name. -/
def ofLabel? (label : String) : Option Kind := all.find? fun kind => kind.label = label

end Kind

/-! ### Tokens -/

/-- What a token says. -/
inductive Lexeme where
  | number (value : Float)
  | identifier (name : String)
  | symbol (which : Symbol)
  | endOfInput
  deriving DecidableEq

/-- The class of a lexeme. -/
def Lexeme.kind : Lexeme → Kind
  | .number _ => .number
  | .identifier _ => .identifier
  | .symbol which => .symbol which
  | .endOfInput => .endOfInput

/-- A lexeme at the offset where it starts. -/
structure Token where
  lexeme : Lexeme
  position : Nat
  deriving DecidableEq

/-- The class of a token. -/
def Token.kind (token : Token) : Kind := token.lexeme.kind

/-- A token is not of a class that its lexeme is not of. -/
theorem Token.kind_ne {token : Token} {lexeme : Lexeme} {kind : Kind} (here : token.lexeme = lexeme)
    (other : lexeme.kind ≠ kind) : token.kind ≠ kind := by
  rwa [Token.kind, here]

/-- The end of input is the one token of its class. -/
theorem Lexeme.kind_eq_endOfInput_iff {lexeme : Lexeme} :
    lexeme.kind = .endOfInput ↔ lexeme = .endOfInput := by
  cases lexeme <;> simp [kind]

end Calculator
