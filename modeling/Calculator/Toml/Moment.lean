/-
**TOML: days and times of day.**

* `fixedNumeral`: a number of so many digits.
* `clock?`, `time?`, `offset`: hours and minutes, a time of day, a distance from universal time.
* `moment?`: a day, a time of day, or both with a letter `T` or a blank between them.

A time has its seconds; digits behind the sixth of a fraction are dropped. A time of day behind a
day belongs to it only if it is whole, and so does a distance from universal time behind both.
-/

import Calculator.Data.Moment
import Calculator.Toml.Number

namespace Calculator.Toml

/-! ### Parts -/

/-- A number of so many digits, and the text after them. -/
def fixedNumeral (count : Nat) (text : List Char) : Option (Nat × List Char) :=
  let digits := text.take count
  if digits.length = count ∧ digits.all Char.isDigit then
    some (numeral 10 digits, text.drop count)
  else none

/-- The text after a mark. -/
def after? (mark : Char) : List Char → Option (List Char)
  | [] => none
  | c :: rest => if c = mark then some rest else none

/-- Hours and minutes, and the text after them. -/
def clock? (text : List Char) : Option ((Nat × Nat) × List Char) := do
  let (hour, rest) ← fixedNumeral 2 text
  let (minute, rest) ← fixedNumeral 2 (← after? ':' rest)
  if hour < 24 ∧ minute < 60 then some ((hour, minute), rest) else none

/-- The microseconds of a fraction of a second, none if there is no fraction, and the text after
it. -/
def microseconds (text : List Char) : Nat × List Char :=
  match fractionPart? text with
  | none => (0, text)
  | some (digits, rest) => (numeral 10 ((digits ++ List.replicate 6 '0').take 6), rest)
where
  /-- The digits behind a point, without underscores. -/
  fractionPart? : List Char → Option (List Char × List Char)
    | '.' :: rest =>
      match rest.takeWhile Char.isDigit with
      | [] => none
      | digits => some (digits, rest.dropWhile Char.isDigit)
    | _ => none

/-- A time of day, and the text after it. -/
def time? (text : List Char) : Option (Time × List Char) := do
  let ((hour, minute), rest) ← clock? text
  let (second, rest) ← fixedNumeral 2 (← after? ':' rest)
  let (microsecond, rest) := microseconds rest
  return (← Time.of? hour minute second microsecond, rest)

/-- A distance from universal time in minutes, if there is one, and the text after it. -/
def offset (text : List Char) : Option Int × List Char :=
  match text with
  | 'Z' :: rest | 'z' :: rest => (some 0, rest)
  | sign :: rest =>
    match clock? rest with
    | none => (none, text)
    | some ((hour, minute), after) =>
      let size : Int := hour * 60 + minute
      if sign = '+' then (some size, after)
      else if sign = '-' then (some (-size), after)
      else (none, text)
  | [] => (none, text)

/-- The numbers of a day, and the text after them. -/
def day? (text : List Char) : Option ((Nat × Nat × Nat) × List Char) := do
  let (year, rest) ← fixedNumeral 4 text
  let (month, rest) ← fixedNumeral 2 (← after? '-' rest)
  let (day, rest) ← fixedNumeral 2 (← after? '-' rest)
  return ((year, month, day), rest)

/-! ### Moments -/

/-- A day with what follows it. -/
def fromDay (date : Date) (text : List Char) : Moment × List Char :=
  match text with
  | [] => (.date date, text)
  | c :: rest =>
    if c = 'T' ∨ c = 't' ∨ c = ' ' then
      match time? rest with
      | none => (.date date, text)
      | some (time, after) =>
        let (distance, after) := offset after
        (.both date time distance, after)
    else (.date date, text)

/-- A moment, if the text starts like one, and the text after it. -/
def moment? (text : List Char) : Option (Except Fault (Moment × List Char)) :=
  match day? text with
  | some ((year, month, day), rest) =>
    match Date.of? year month day with
    | none => some (.error .malformed)
    | some date => some (.ok (fromDay date rest))
  | none => (time? text).map fun (time, rest) => .ok (.time time, rest)

end Calculator.Toml
