/-
**TOML: documents.**

* `Document`: the tree built so far, and the header under which its lines stand.
* `statement`: what one line, or a value over several lines, does to a document.
* `parse`: the entries of the table that a whole text spells.

A carriage return and a line feed in a row count as a line feed. Each statement ends its line.
-/

import Calculator.Toml.Content

namespace Calculator.Toml

/-- A document as far as it has been read. -/
structure Document where
  entries : Entries
  /-- The key of the latest header; none before the first one. -/
  header : List String

/-- The text with a line feed in place of a carriage return and a line feed. -/
def joinLineEnds : List Char → List Char
  | [] => []
  | '\r' :: '\n' :: rest => '\n' :: joinLineEnds rest
  | c :: rest => c :: joinLineEnds rest

namespace Document

/-- The header of a table, after its bracket. -/
def openTable (doc : Document) (text : List Char) : Except Fault (Document × List Char) := do
  let (path, rest) ← key (skipBlanks text)
  match rest with
  | ']' :: rest => return (⟨← declare path doc.entries, path⟩, rest)
  | _ => .error .malformed

/-- The header of one more table of an array, after its brackets. -/
def openMember (doc : Document) (text : List Char) : Except Fault (Document × List Char) := do
  let (path, rest) ← key (skipBlanks text)
  match rest with
  | ']' :: ']' :: rest => return (⟨← append path doc.entries, path⟩, rest)
  | _ => .error .malformed

/-- A key, an equals sign and a value. -/
def assign (doc : Document) (text : List Char) : Except Fault (Document × List Char) := do
  let (path, rest) ← key text
  match rest with
  | '=' :: rest =>
    let (content, rest) ← value (skipBlanks rest)
    return ({ doc with entries := ← insertWithin content path doc.header doc.entries }, rest)
  | _ => .error .malformed

/-- What the next statement does, up to the end of its line or the comment there. -/
def statement (doc : Document) (text : List Char) : Except Fault (Document × List Char) :=
  match text with
  | [] => .ok (doc, [])
  | '\n' :: _ => .ok (doc, text)
  | '#' :: _ => .ok (doc, text)
  | '[' :: '[' :: rest => doc.openMember rest
  | '[' :: rest => doc.openTable rest
  | _ => doc.assign text

/-- What all statements of a text do. -/
def statements (doc : Document) (text : List Char) : Except Fault Document := do
  let (doc, rest) ← doc.statement (skipBlanks text)
  match ← skipComment (skipBlanks rest) with
  | [] => return doc
  | '\n' :: rest =>
    if _shorter : rest.length < text.length then doc.statements rest else .error .malformed
  | _ => .error .malformed
termination_by text.length

end Document

/-- The entries of the table that a text spells. -/
def parse (text : List Char) : Except Fault (List (String × Value)) := do
  let doc ← Document.statements ⟨[], []⟩ (joinLineEnds text)
  return entryValues doc.entries

end Calculator.Toml
