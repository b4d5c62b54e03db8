import ShopTraffic.Text.Digits
import ShopTraffic.Time.Instant

/-!
# Spans of time

A span is a whole number of nanoseconds.

* `Span.wholeMillis`, `Span.startedMillis` — milliseconds, rounded down and up;
* `Span.text` — the exact value in the largest unit that it fills;
* `Span.toSeconds` — seconds as a double.
-/

namespace ShopTraffic

/-- A length of time in nanoseconds. -/
structure Span where
  nanos : Nat
  deriving DecidableEq, Repr

namespace Span

def ofMillis (n : Nat) : Span := ⟨n * 1000000⟩

def ofSeconds (n : Nat) : Span := ⟨n * 1000000000⟩

/-- Whole seconds, rounded down. -/
def wholeSeconds (s : Span) : Nat := s.nanos / 1000000000

/-- Whole milliseconds, rounded down; no more than an instant can count. -/
def wholeMillis (s : Span) : Nat := min (s.nanos / 1000000) 0xFFFFFFFFFFFFFFFF

/-- Milliseconds rounded up. -/
def startedMillis (s : Span) : Nat := (s.nanos + 999999) / 1000000

/-- A fraction of a unit of `10^width` parts, without zeros at the end. -/
def fractionText (width part : Nat) : String :=
  let digits := (Text.fixedDigits 10 width part).reverse.dropWhile (· == '0')
  if digits.isEmpty then "" else "." ++ String.ofList digits.reverse

/-- The span in units of `10^width` nanoseconds. -/
def inUnits (s : Span) (width : Nat) (unit : String) : String :=
  toString (s.nanos / Nat.pow 10 width) ++ fractionText width (s.nanos % Nat.pow 10 width) ++ unit

/-- The exact span in the largest of seconds, milliseconds, microseconds and nanoseconds that it
fills at least once. -/
def text (s : Span) : String :=
  if 1000000000 ≤ s.nanos then s.inUnits 9 "s"
  else if 1000000 ≤ s.nanos then s.inUnits 6 "ms"
  else if 1000 ≤ s.nanos then s.inUnits 3 "µs"
  else s.inUnits 0 "ns"

/-- Seconds as a double: the whole ones and the fraction, each rounded, added. -/
def toSeconds (s : Span) : Float :=
  Float.ofNat s.wholeSeconds + Float.ofNat (s.nanos % 1000000000) / 1000000000

theorem startedMillis_pos {s : Span} (h : s.nanos ≠ 0) : 0 < s.startedMillis := by
  unfold startedMillis; omega

@[simp] theorem wholeMillis_ofMillis (n : Nat) :
    (ofMillis n).wholeMillis = min n 0xFFFFFFFFFFFFFFFF := by
  simp [wholeMillis, ofMillis]

@[simp] theorem startedMillis_ofMillis (n : Nat) : (ofMillis n).startedMillis = n := by
  simp only [startedMillis, ofMillis]
  omega

end Span

end ShopTraffic
