/-
**TOML: values.**

* `value`: a string, number, boolean, day or time, array or inline table.
* `members`, `fields`: the rest of an array and of an inline table.

The members of an array may stand on several lines, with comments between them; an inline table
stands on one line. What an inline table holds is complete when it closes.
-/

import Calculator.Toml.Moment
import Calculator.Toml.Node

namespace Calculator.Toml

/-- A value without parts. -/
def scalar (text : List Char) : Except Fault (Value × List Char) :=
  match text with
  | 't' :: 'r' :: 'u' :: 'e' :: rest => .ok (.boolean true, rest)
  | 'f' :: 'a' :: 'l' :: 's' :: 'e' :: rest => .ok (.boolean false, rest)
  | c :: _ =>
    if c = '"' ∨ c = '\'' then do
      let (content, rest) ← quotedText text
      return (.text (String.ofList content), rest)
    else
      match moment? text with
      | some found => do
        let (moment, rest) ← found
        return (.moment moment, rest)
      | none => number text
  | [] => .error .malformed

mutual

/-- A value, and the text after it. -/
def value (text : List Char) : Except Fault (Value × List Char) :=
  match text with
  | '[' :: rest => do
    match ← skipLayout false rest with
    | ']' :: after => return (.list [], after)
    | next => if _shorter : next.length ≤ rest.length then members [] next else .error .malformed
  | '\x7b' :: rest =>
    match skipBlanks rest with
    | '\x7d' :: after => .ok (.table [], after)
    | next => if _shorter : next.length ≤ rest.length then fields [] next else .error .malformed
  | _ => scalar text
termination_by (text.length, 0)

/-- The rest of an array, a member being next; `done` holds the members before it, the latest
first. -/
def members (done : List Value) (text : List Char) : Except Fault (Value × List Char) := do
  let (member, rest) ← value text
  let done := member :: done
  match ← skipLayout false rest with
  | ']' :: after => return (.list done.reverse, after)
  | ',' :: rest =>
    match ← skipLayout false rest with
    | ']' :: after => return (.list done.reverse, after)
    | next => if _shorter : next.length < text.length then members done next else .error .malformed
  | _ => .error .malformed
termination_by (text.length, 1)

/-- The rest of an inline table, a key being next; `done` holds what stands before it. -/
def fields (done : Entries) (text : List Char) : Except Fault (Value × List Char) := do
  let (path, rest) ← key text
  match rest with
  | '=' :: rest =>
    let content := skipBlanks rest
    if _shorter : content.length < text.length then
      let (content, rest) ← value content
      let done ← insert content path done
      match skipBlanks rest with
      | '\x7d' :: after => return (.table (entryValues done), after)
      | ',' :: rest =>
        let next := skipBlanks rest
        if _shorter : next.length < text.length then fields done next else .error .malformed
      | _ => .error .malformed
    else .error .malformed
  | _ => .error .malformed
termination_by (text.length, 1)

end

end Calculator.Toml
