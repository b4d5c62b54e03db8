import ShopTraffic.Crash
import ShopTraffic.Text.Ranges
import ShopTraffic.Time.Span

/-!
# Spans as people write them

A span is a sum of numbers with units, such as `1h 30m`; a number may have a fraction, and blanks may
stand anywhere but inside a unit. A lone zero needs no unit. Units are counted in nanoseconds or in
seconds, in 64 bits, and a fraction has to come to whole ones of them.

* `Grain`, `Measure`, `SpanUnit` — what units are counted in; `SpanUnit.named?` — the unit of a name;
* `Numeral` — a number as it is written;
* `Span.read` — the span that a text gives; `Span.add` — its sums.
-/

namespace ShopTraffic

/-- What units are counted in. -/
inductive Grain where
  | nanos
  | seconds
  deriving DecidableEq, Repr

/-- The nanoseconds of a grain. -/
def Grain.nanoseconds : Grain → Nat
  | .nanos => 1
  | .seconds => 1000000000

/-- A number of grains. -/
structure Measure where
  count : Nat
  grain : Grain
  deriving DecidableEq, Repr

/-- A unit of time, as the whole part of a number counts it and as its fraction does, if it may have
one. -/
structure SpanUnit where
  whole : Measure
  fraction : Option Measure
  deriving DecidableEq, Repr

namespace SpanUnit

def nanosecond : SpanUnit := ⟨⟨1, .nanos⟩, none⟩

/-- A unit of less than a second. -/
def ofNanos (n : Nat) : SpanUnit := ⟨⟨n, .nanos⟩, some ⟨n, .nanos⟩⟩

/-- A unit of up to a minute: its fractions are whole nanoseconds. -/
def ofSeconds (n : Nat) : SpanUnit := ⟨⟨n, .seconds⟩, some ⟨n * 1000000000, .nanos⟩⟩

/-- A unit of more than a minute: its fractions are whole seconds. -/
def ofManySeconds (n : Nat) : SpanUnit := ⟨⟨n, .seconds⟩, some ⟨n, .seconds⟩⟩

/-- The unit of a name; a month is a twelfth, rounded, of a year of 365 days and a quarter. -/
def named? (name : String) : Option SpanUnit :=
  if name ∈ ["nanos", "nsec", "ns"] then some nanosecond
  else if name ∈ ["usec", "us", "µs"] then some (ofNanos 1000)
  else if name ∈ ["millis", "msec", "ms"] then some (ofNanos 1000000)
  else if name ∈ ["seconds", "second", "secs", "sec", "s"] then some (ofSeconds 1)
  else if name ∈ ["minutes", "minute", "min", "mins", "m"] then some (ofSeconds 60)
  else if name ∈ ["hours", "hour", "hrs", "hr", "h"] then some (ofManySeconds 3600)
  else if name ∈ ["days", "day", "d"] then some (ofManySeconds 86400)
  else if name ∈ ["weeks", "week", "wks", "wk", "w"] then some (ofManySeconds 604800)
  else if name ∈ ["months", "month", "M"] then some (ofManySeconds 2630016)
  else if name ∈ ["years", "year", "yrs", "yr", "y"] then some (ofManySeconds 31557600)
  else none

end SpanUnit

/-- A number as it is written: its whole part, and its fraction as so many parts of a power of ten. -/
structure Numeral where
  whole : Nat
  parts : Nat
  places : Nat
  deriving DecidableEq, Repr

/-- A character that may stand in the whole part or the fraction of a number. -/
def isNumeralChar (c : Char) : Bool := c.isDigit || Text.isBlank c

/-- A character of the name of a unit. -/
def isUnitChar (c : Char) : Bool := c.isAlpha || c == 'µ'

/-- A number of 64 bits at the start of a text, and the rest. A fraction has one to nineteen
digits. -/
def Numeral.read? (cs : List Char) : Option (Numeral × List Char) := do
  let digits (cs : List Char) : List Char := (cs.takeWhile isNumeralChar).filter Char.isDigit
  let whole ← Text.decimal? (digits cs)
  if 0x10000000000000000 ≤ whole then none
  match cs.dropWhile isNumeralChar with
  | '.' :: rest =>
    let fraction := digits rest
    if 19 < fraction.length then none
    else return (⟨whole, ← Text.decimal? fraction, fraction.length⟩, rest.dropWhile isNumeralChar)
  | rest => return (⟨whole, 0, 0⟩, rest)

/-- A product of 64 bits. -/
def Measure.times? (m : Measure) (n : Nat) : Option Nat :=
  if n * m.count < 0x10000000000000000 then some (n * m.count) else none

/-- So many parts of a power of ten, where they are a whole number. -/
def Measure.share? (m : Measure) (parts places : Nat) : Option Nat := do
  let n ← m.times? parts
  if n % Nat.pow 10 places = 0 then some (n / Nat.pow 10 places) else none

namespace Span

/-- A value that a text must have given. -/
def need {α : Type} : Option α → Outcome Unit α
  | some a => .ok a
  | none => .error (.error ())

/-- Adds grains to a span. Less than `2^64` seconds can be counted; a sum that fills the next second
exactly with nanoseconds is not checked against that. -/
def add (s : Span) (n : Nat) (g : Grain) : Outcome Unit Span :=
  let sum : Span := ⟨s.nanos + n * g.nanoseconds⟩
  if sum.wholeSeconds < 0x10000000000000000 then
    match g with
    | .seconds => .ok sum
    | .nanos =>
      if s.nanos % 1000000000 + n < 0x10000000000000000 then .ok sum else .error (.error ())
  else if g = .nanos ∧ s.nanos % 1000000000 + n = 1000000000 then .error (.crash .spanOverflow)
  else .error (.error ())

/-- Adds a number of units. -/
def addTerm (s : Span) (n : Numeral) (u : SpanUnit) : Outcome Unit Span := do
  let s ← s.add (← need (u.whole.times? n.whole)) u.whole.grain
  if n.places = 0 then return s
  let m ← need u.fraction
  s.add (← need (m.share? n.parts n.places)) m.grain

/-- Adds the numbers with units that a text consists of. -/
def addTerms : (fuel : Nat) → List Char → Span → Outcome Unit Span
  | 0, _, _ => .error (.error ())
  | fuel + 1, cs, s => do
    let (n, rest) ← need (Numeral.read? cs)
    let unit ← need (SpanUnit.named? (String.ofList (rest.takeWhile isUnitChar)))
    let rest := rest.dropWhile isUnitChar
    if !rest.head?.all isNumeralChar then .error (.error ())
    else
      let s ← s.addTerm n unit
      if rest.all Text.isBlank then return s else addTerms fuel rest s

/-- The span that a text gives; an error where it gives none. -/
def read (text : String) : Outcome Unit Span :=
  if text = "0" then .ok ⟨0⟩ else addTerms (text.length + 1) text.toList ⟨0⟩

end Span

end ShopTraffic
