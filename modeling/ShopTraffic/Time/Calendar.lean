import ShopTraffic.Time.Instant
import ShopTraffic.Text.Digits

/-!
# Calendar text

Days are shown as dates of the Gregorian calendar carried back and forth without limit, up to the
last day of the year 262142; later days and instants are shown by their count.

* `Date.ofDay` — the calendar date of a day number, counted in cycles of four hundred years whose
  years begin in March, so that the leap day comes last;
* `Day.text`, `Instant.text` — a date, and a date with the time of day.
-/

namespace ShopTraffic

/-- A date of the Gregorian calendar. -/
structure Date where
  year : Nat
  month : Nat
  day : Nat
  deriving DecidableEq, Repr

/-- Days in a cycle of four hundred years. -/
def daysPerCycle : Nat := 146097

/-- The year of a cycle and the day of that year, both from zero, for a day of the cycle. -/
def yearOfCycle (day : Nat) : Nat × Nat :=
  let year := (day - day / 1460 + day / 36524 - day / 146096) / 365
  (year, day - (365 * year + year / 4 - year / 100))

/-- The month counted from March and the day of the month from zero, for a day of a year. -/
def monthOfYear (day : Nat) : Nat × Nat :=
  let month := (5 * day + 2) / 153
  (month, day - (153 * month + 2) / 5)

/-- The date of the `n`-th day after the first of January 1970. -/
def Date.ofDay (n : Nat) : Date :=
  let shifted := n + 719468
  let (year, dayOfYear) := yearOfCycle (shifted % daysPerCycle)
  let (month, day) := monthOfYear dayOfYear
  let year := shifted / daysPerCycle * 400 + year
  if month < 10 then ⟨year, month + 3, day + 1⟩ else ⟨year + 1, month - 9, day + 1⟩

/-- The number of the last day that has a date: the end of the year 262142. -/
def lastDated : Nat := 95026236

/-- A year of four digits, or a longer one behind a plus sign. -/
def Date.yearText (year : Nat) : String :=
  if year ≤ 9999 then Text.padded 4 year else "+" ++ Text.padded 4 year

def Date.text (d : Date) : String :=
  Date.yearText d.year ++ "-" ++ Text.padded 2 d.month ++ "-" ++ Text.padded 2 d.day

/-- Hours, minutes, seconds and milliseconds of a time of day. -/
def timeOfDayText (millis : Nat) : String :=
  Text.padded 2 (millis / 3600000) ++ ":" ++ Text.padded 2 (millis / 60000 % 60) ++ ":" ++
    Text.padded 2 (millis / 1000 % 60) ++ "." ++ Text.padded 3 (millis % 1000)

/-- The date of the day's midnight, or its number beyond the last date. -/
def Day.text (d : Day) : String :=
  if d.start.day.number ≤ lastDated then (Date.ofDay d.start.day.number).text
  else s!"day {d.number}"

/-- The date and time of day of an instant, or its count beyond the last date. -/
def Instant.text (t : Instant) : String :=
  if t.day.number ≤ lastDated then
    (Date.ofDay t.day.number).text ++ " " ++ timeOfDayText (t.millis % millisPerDay)
  else s!"{t.millis}ms"

end ShopTraffic
