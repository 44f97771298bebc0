/-
**Days and times of day.**

* `Date`: a day of the calendar; `Date.of?` makes one of three numbers, if there is such a day.
* `Time`: a time of day; `Time.of?` makes one of four numbers, if there is such a time.
* `Moment`: a day, a time of day, or both, then perhaps with a distance from universal time.
* `Moment.display`: a moment inside an error message.

The calendar is the Gregorian one, carried on to the years before it. The year 0 is not in it.
-/

namespace Calculator

/-! ### Days -/

/-- The year has a 29th of February. -/
def isLeapYear (year : Nat) : Bool :=
  year % 4 = 0 && (year % 100 != 0 || year % 400 = 0)

/-- The number of days in a month of a year. -/
def daysOfMonth (year month : Nat) : Nat :=
  if month = 2 then if isLeapYear year then 29 else 28
  else if month ∈ [4, 6, 9, 11] then 30
  else 31

/-- There is such a day. -/
def IsDay (year month day : Nat) : Prop :=
  1 ≤ year ∧ 1 ≤ month ∧ month ≤ 12 ∧ 1 ≤ day ∧ day ≤ daysOfMonth year month

instance (year month day : Nat) : Decidable (IsDay year month day) :=
  inferInstanceAs (Decidable (_ ∧ _))

/-- A day of the calendar. -/
structure Date where
  year : Nat
  month : Nat
  day : Nat
  isDay : IsDay year month day
  deriving DecidableEq

/-- The day with these numbers. -/
def Date.of? (year month day : Nat) : Option Date :=
  if isDay : IsDay year month day then some ⟨year, month, day, isDay⟩ else none

/-- The numbers of a day, the largest unit first. -/
def Date.numbers (d : Date) : List Nat := [d.year, d.month, d.day]

/-! ### Times -/

/-- There is such a time. -/
def IsTime (hour minute second microsecond : Nat) : Prop :=
  hour < 24 ∧ minute < 60 ∧ second < 60 ∧ microsecond < 1000000

instance (hour minute second microsecond : Nat) :
    Decidable (IsTime hour minute second microsecond) :=
  inferInstanceAs (Decidable (_ ∧ _))

/-- A time of day. -/
structure Time where
  hour : Nat
  minute : Nat
  second : Nat
  microsecond : Nat
  isTime : IsTime hour minute second microsecond
  deriving DecidableEq

/-- The time with these numbers. -/
def Time.of? (hour minute second microsecond : Nat) : Option Time :=
  if isTime : IsTime hour minute second microsecond then
    some ⟨hour, minute, second, microsecond, isTime⟩
  else none

/-- The numbers of a time, the largest unit first; beyond the minutes only as far as any is not
zero. -/
def Time.numbers (t : Time) : List Nat :=
  if t.microsecond ≠ 0 then [t.hour, t.minute, t.second, t.microsecond]
  else if t.second ≠ 0 then [t.hour, t.minute, t.second]
  else [t.hour, t.minute]

/-! ### Moments -/

/-- A day, a time of day, or both. -/
inductive Moment where
  | date (date : Date)
  | time (time : Time)
  /-- The distance from universal time is in minutes, east of it being positive. -/
  | both (date : Date) (time : Time) (offset : Option Int)
  deriving DecidableEq

namespace Moment

/-- Numbers with commas between them. -/
def enumerate (numbers : List Nat) : String := ", ".intercalate (numbers.map toString)

/-- A distance from universal time inside an error message, as whole days and the seconds after
them. -/
def displayOffset (minutes : Int) : String :=
  if minutes = 0 then "datetime.timezone.utc"
  else
    let seconds := minutes * 60
    let days := if seconds / 86400 = 0 then "" else s!"days={seconds / 86400}, "
    s!"datetime.timezone(datetime.timedelta({days}seconds={seconds % 86400}))"

/-- The moment inside an error message. -/
def display : Moment → String
  | .date d => s!"datetime.date({enumerate d.numbers})"
  | .time t => s!"datetime.time({enumerate t.numbers})"
  | .both d t none => s!"datetime.datetime({enumerate (d.numbers ++ t.numbers)})"
  | .both d t (some offset) =>
    s!"datetime.datetime({enumerate (d.numbers ++ t.numbers)}, tzinfo={displayOffset offset})"

end Moment

end Calculator
