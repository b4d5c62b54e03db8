import ShopTraffic.Event
import ShopTraffic.Time.Span

/-!
# Delivery lag

How far an event's own time lies behind the moment it was released. A record keeps lags of less than
2048 milliseconds; a longer one is entered as two.

* `Lag.record` — the lags of the events of a batch;
* `Lag.quantile`, `Lag.max` — summaries; `Lag.report` — their text.
-/

namespace ShopTraffic

/-- Recorded lags in milliseconds, the newest first. -/
structure Lag where
  entries : List Nat := []
  deriving DecidableEq, Repr

namespace Lag

/-- The lag that is entered for one that was measured. -/
def entered (millis : Nat) : Nat := if millis < 2048 then millis else 2

/-- Records the lags of events released at `now`. -/
def record (l : Lag) (now : Instant) (events : List Event) : Lag :=
  ⟨events.foldl (fun entries e => entered (now.since e.time) :: entries) l.entries⟩

/-- How many events were measured. -/
def count (l : Lag) : Nat := l.entries.length

/-- The smallest lag that a share `q` of all entries, and at least one, do not exceed; zero without
entries. -/
def quantile (l : Lag) (q : Float) : Nat :=
  let wanted := max 1 (q * Float.ofNat l.count).ceil.toUInt64.toNat
  let sorted := l.entries.mergeSort
  (sorted.drop (wanted - 1)).headD (sorted.getLastD 0)

/-- Half of the events lag no more than this. -/
def median (l : Lag) : Nat := l.quantile 0.5

/-- All but one event of a hundred lag no more than this. -/
def percentile99 (l : Lag) : Nat := l.quantile 0.99

/-- The largest lag; zero without entries. -/
def max (l : Lag) : Nat := l.entries.foldl Max.max 0

/-- The lines that summarise the lags. -/
def report (l : Lag) : List String :=
  if l.count = 0 then ["", "No delivery lag measurements recorded."]
  else
    ["", "--- Delivery Lag ---", s!"Events: {l.count}",
      s!"  P50:  {(Span.ofMillis l.median).text}", s!"  P99:  {(Span.ofMillis l.percentile99).text}",
      s!"  Max:  {(Span.ofMillis l.max).text}"]

end Lag

end ShopTraffic
