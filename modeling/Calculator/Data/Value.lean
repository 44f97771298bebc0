/-
**Values of any sort.**

* `Value`: what a settings file or a tree in JSON can hold at a place.
* `Value.display`: a value inside an error message; `Value.isDisplayable`: whether its integers are
  short enough to stand in one.
* `Value.json`, `Value.jsonIndented`: a value as JSON, on one line or indented.

The entries of a table keep the order in which they were written. JSON has no days and times, so
there they are texts.
-/

import Calculator.Binary64.Notation
import Calculator.Data.Moment
import Calculator.Text.Integer
import Calculator.Text.Quoted

namespace Calculator

open Text (quoted hexadecimal)

/-- A value of any sort. -/
inductive Value where
  | null
  | boolean (value : Bool)
  | integer (value : Int)
  | float (value : Float)
  | text (value : String)
  | moment (value : Moment)
  | list (items : List Value)
  | table (entries : List (String × Value))

namespace Value

/-! ### In messages -/

mutual

/-- The value inside an error message. -/
def display : Value → String
  | .null => "None"
  | .boolean value => if value then "True" else "False"
  | .integer value => toString value
  | .float value => Binary64.text value
  | .text value => quoted value
  | .moment value => value.display
  | .list items => "[" ++ ", ".intercalate (displayItems items) ++ "]"
  | .table entries => "\x7b" ++ ", ".intercalate (displayEntries entries) ++ "\x7d"

/-- The members of a list inside an error message. -/
def displayItems : List Value → List String
  | [] => []
  | item :: rest => item.display :: displayItems rest

/-- The entries of a table inside an error message. -/
def displayEntries : List (String × Value) → List String
  | [] => []
  | (key, value) :: rest => (quoted key ++ ": " ++ value.display) :: displayEntries rest

end

mutual

/-- Every integer in the value takes few enough digits to be written. -/
def isDisplayable : Value → Bool
  | .integer value => Text.isSpellable value
  | .list items => itemsDisplayable items
  | .table entries => entriesDisplayable entries
  | _ => true

/-- Every integer in the members of a list takes few enough digits to be written. -/
def itemsDisplayable : List Value → Bool
  | [] => true
  | item :: rest => item.isDisplayable && itemsDisplayable rest

/-- Every integer in the entries of a table takes few enough digits to be written. -/
def entriesDisplayable : List (String × Value) → Bool
  | [] => true
  | (_, value) :: rest => value.isDisplayable && entriesDisplayable rest

end

/-! ### As JSON -/

/-- A character beyond the basic plane as its two surrogates, any other as itself. -/
def utf16Units (c : Char) : List Nat :=
  if c.toNat < 0x10000 then [c.toNat]
  else [0xD800 + (c.toNat - 0x10000) / 0x400, 0xDC00 + (c.toNat - 0x10000) % 0x400]

/-- A character inside a string of JSON: ASCII stands for itself unless it is a control, a quote or
a backslash. -/
def jsonChar (c : Char) : List Char :=
  if c = '"' then ['\\', '"']
  else if c = '\\' then ['\\', '\\']
  else if c = '\n' then ['\\', 'n']
  else if c = '\r' then ['\\', 'r']
  else if c = '\t' then ['\\', 't']
  else if c = '\x08' then ['\\', 'b']
  else if c = '\x0c' then ['\\', 'f']
  else if 0x20 ≤ c.toNat ∧ c.toNat < 0x80 then [c]
  else (utf16Units c).flatMap fun unit => '\\' :: 'u' :: hexadecimal 4 unit

/-- A string of JSON. -/
def jsonString (text : String) : String :=
  String.ofList ('"' :: text.toList.flatMap jsonChar ++ ['"'])

mutual

/-- The value as JSON on one line. -/
def json : Value → String
  | .null => "null"
  | .boolean value => if value then "true" else "false"
  | .integer value => toString value
  | .float value => Binary64.text value
  | .text value => jsonString value
  | .moment value => jsonString value.display
  | .list items => "[" ++ ", ".intercalate (jsonItems items) ++ "]"
  | .table entries => "\x7b" ++ ", ".intercalate (jsonEntries entries) ++ "\x7d"

/-- The members of a list as JSON. -/
def jsonItems : List Value → List String
  | [] => []
  | item :: rest => item.json :: jsonItems rest

/-- The entries of a table as JSON. -/
def jsonEntries : List (String × Value) → List String
  | [] => []
  | (key, value) :: rest => (jsonString key ++ ": " ++ value.json) :: jsonEntries rest

end

/-- The lines of a list or table between its brackets; an empty one stays on one line. -/
def bracketed (opening closing indent : String) (lines : List String) : String :=
  if lines = [] then opening ++ closing
  else opening ++ "\n" ++ ",\n".intercalate (lines.map (indent ++ "  " ++ ·)) ++ "\n" ++ indent ++
    closing

mutual

/-- The value as JSON with one member a line, each level indented by two more spaces. -/
def jsonIndented (indent : String) : Value → String
  | .null => "null"
  | .boolean value => if value then "true" else "false"
  | .integer value => toString value
  | .float value => Binary64.text value
  | .text value => jsonString value
  | .moment value => jsonString value.display
  | .list items => bracketed "[" "]" indent (indentedItems (indent ++ "  ") items)
  | .table entries =>
    bracketed "\x7b" "\x7d" indent (indentedEntries (indent ++ "  ") entries)

/-- The members of a list as indented JSON. -/
def indentedItems (indent : String) : List Value → List String
  | [] => []
  | item :: rest => item.jsonIndented indent :: indentedItems indent rest

/-- The entries of a table as indented JSON. -/
def indentedEntries (indent : String) : List (String × Value) → List String
  | [] => []
  | (key, value) :: rest =>
    (jsonString key ++ ": " ++ value.jsonIndented indent) :: indentedEntries indent rest

end

end Value

end Calculator
