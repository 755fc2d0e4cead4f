import AddonPicker.Text.Numeral
import AddonPicker.Value.Moment

/-!
# Dates and times of day

Dates as in `1979-05-27`, times as in `07:32:00.5`, and both together with a `T` or a blank between
them, then with or without an offset from universal time. Fractions of a second are cut after the
sixth place.
-/

namespace AddonPicker.Toml

/-- Read one character that has to stand there. -/
def readMark (mark : Char) : List Char → Option (List Char)
  | [] => none
  | c :: rest => if c = mark then some rest else none

/-- Read a date of the calendar. -/
def readDate (cs : List Char) : Option (Date × List Char) := do
  let (year, rest) ← Text.readNumeral 10 4 cs
  let rest ← readMark '-' rest
  let (month, rest) ← Text.readNumeral 10 2 rest
  let rest ← readMark '-' rest
  let (day, rest) ← Text.readNumeral 10 2 rest
  let date : Date := ⟨year, month, day⟩
  if date.isValid then some (date, rest) else none

/-- Read a fraction of a second, if there is one, in microseconds. -/
def readMicros : List Char → Nat × List Char
  | '.' :: rest =>
    let digits := rest.takeWhile Char.isDigit
    if digits.isEmpty then (0, '.' :: rest)
    else
      let kept := digits.take 6
      (Text.numeral 10 kept * tenTo (6 - kept.length), rest.dropWhile Char.isDigit)
  | cs => (0, cs)

/-- Read hours and minutes. -/
def readHourMinute (cs : List Char) : Option (Nat × Nat × List Char) := do
  let (hour, rest) ← Text.readNumeral 10 2 cs
  let rest ← readMark ':' rest
  let (minute, rest) ← Text.readNumeral 10 2 rest
  if hour < 24 ∧ minute < 60 then some (hour, minute, rest) else none

/-- Read a time of day. -/
def readTime (cs : List Char) : Option (TimeOfDay × List Char) := do
  let (hour, minute, rest) ← readHourMinute cs
  let rest ← readMark ':' rest
  let (second, rest) ← Text.readNumeral 10 2 rest
  let (micro, rest) := readMicros rest
  if second < 60 then some (⟨hour, minute, second, micro⟩, rest) else none

/-- Read an offset from universal time in minutes, if there is one. -/
def readOffset : List Char → Option Int × List Char
  | [] => (none, [])
  | c :: rest =>
    if c = 'Z' ∨ c = 'z' then (some 0, rest)
    else if c = '+' ∨ c = '-' then
      match readHourMinute rest with
      | some (hour, minute, rest) =>
        let minutes : Int := hour * 60 + minute
        (some (if c = '-' then -minutes else minutes), rest)
      | none => (none, c :: rest)
    else (none, c :: rest)

/-- Read the time that may follow a date. -/
def readTimeAfter (date : Date) : List Char → Moment × List Char
  | [] => (.date date, [])
  | c :: rest =>
    if c = 'T' ∨ c = 't' ∨ c = ' ' then
      match readTime rest with
      | some (time, rest) =>
        let (offset, rest) := readOffset rest
        (.dateTime date time offset, rest)
      | none => (.date date, c :: rest)
    else (.date date, c :: rest)

/-- Read a date, a time of day or both. -/
def readMoment (cs : List Char) : Option (Moment × List Char) :=
  match readDate cs with
  | some (date, rest) => some (readTimeAfter date rest)
  | none => (readTime cs).map fun (time, rest) => (.time time, rest)

end AddonPicker.Toml
