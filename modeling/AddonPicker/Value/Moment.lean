import AddonPicker.Number.Layout

/-!
# Moments

Dates and times of day as a configuration file may hold them, with their two text forms: the plain
one, and the constructor form that a list or table of values shows.
-/

namespace AddonPicker

/-- A calendar date. -/
structure Date where
  year : Nat
  month : Nat
  day : Nat
deriving DecidableEq, Repr, Inhabited

/-- A time of day, to the microsecond. -/
structure TimeOfDay where
  hour : Nat
  minute : Nat
  second : Nat
  micro : Nat
deriving DecidableEq, Repr, Inhabited

/-- A date, a time of day, or both, the last with or without an offset from universal time in
minutes. -/
inductive Moment
  | date (d : Date)
  | time (t : TimeOfDay)
  | dateTime (d : Date) (t : TimeOfDay) (offset : Option Int)
deriving DecidableEq, Repr, Inhabited

/-- A number with leading zeros. -/
def zeroPadded (width n : Nat) : String :=
  Layout.pad width (toString n)

namespace Date

def text (d : Date) : String :=
  zeroPadded 4 d.year ++ "-" ++ zeroPadded 2 d.month ++ "-" ++ zeroPadded 2 d.day

/-- The arguments of the constructor form. -/
def arguments (d : Date) : List Nat :=
  [d.year, d.month, d.day]

/-- Whether a year is a leap year of the Gregorian calendar. -/
def isLeap (year : Nat) : Bool :=
  year % 4 == 0 && (year % 100 != 0 || year % 400 == 0)

/-- The days of a month, none for a number that is no month. -/
def daysIn (year month : Nat) : Nat :=
  match month with
  | 1 | 3 | 5 | 7 | 8 | 10 | 12 => 31
  | 4 | 6 | 9 | 11 => 30
  | 2 => if isLeap year then 29 else 28
  | _ => 0

/-- Whether a date is in the calendar, whose first year is 1. -/
def isValid (d : Date) : Bool :=
  1 ≤ d.year && 1 ≤ d.day && d.day ≤ daysIn d.year d.month

end Date

namespace TimeOfDay

def text (t : TimeOfDay) : String :=
  let clock := zeroPadded 2 t.hour ++ ":" ++ zeroPadded 2 t.minute ++ ":" ++ zeroPadded 2 t.second
  if t.micro = 0 then clock else clock ++ "." ++ zeroPadded 6 t.micro

/-- The arguments of the constructor form: seconds and microseconds are left out from the end
while they are zero. -/
def arguments (t : TimeOfDay) : List Nat :=
  if t.micro ≠ 0 then [t.hour, t.minute, t.second, t.micro]
  else if t.second ≠ 0 then [t.hour, t.minute, t.second]
  else [t.hour, t.minute]

end TimeOfDay

namespace Moment

/-- An offset from universal time, as in `+02:00`. -/
def offsetText (offset : Int) : String :=
  let minutes := offset.natAbs
  (if offset < 0 then "-" else "+") ++ zeroPadded 2 (minutes / 60) ++ ":" ++
    zeroPadded 2 (minutes % 60)

/-- The plain form. -/
def text : Moment → String
  | .date d => d.text
  | .time t => t.text
  | .dateTime d t offset => d.text ++ " " ++ t.text ++ (offset.map offsetText).getD ""

/-- The constructor form of an offset. -/
def offsetForm (offset : Int) : String :=
  if offset = 0 then "datetime.timezone.utc"
  else
    let seconds := toString ((offset % 1440) * 60)
    let days := if offset < 0 then "days=-1, " else ""
    "datetime.timezone(datetime.timedelta(" ++ days ++ "seconds=" ++ seconds ++ "))"

/-- The name of the type of a moment. -/
def typeName : Moment → String
  | .date _ => "datetime.date"
  | .time _ => "datetime.time"
  | .dateTime .. => "datetime.datetime"

/-- The constructor form. -/
def form (m : Moment) : String :=
  let arguments : List String := match m with
    | .date d => d.arguments.map toString
    | .time t => t.arguments.map toString
    | .dateTime d t offset =>
      (d.arguments ++ t.arguments).map toString ++
        (offset.map fun o => "tzinfo=" ++ offsetForm o).toList
  m.typeName ++ "(" ++ ", ".intercalate arguments ++ ")"

end Moment

end AddonPicker
