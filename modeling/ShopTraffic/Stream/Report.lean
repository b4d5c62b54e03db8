import ShopTraffic.Stream.Lag
import ShopTraffic.Text.Real

/-!
# Counts and reports of a stream

* `Counts` — what a stream has done so far;
* `StreamReport` — the counts of a run with its duration; `StreamReport.lines` — the printed text.
-/

namespace ShopTraffic

/-- What a stream has done. -/
structure Counts where
  windows : Nat := 0
  /-- Events generated and kept. -/
  generated : Nat := 0
  /-- Events generated and dropped for lying outside their window. -/
  truncated : Nat := 0
  /-- Events handed over, failed deliveries included. -/
  sent : Nat := 0
  deliveries : Nat := 0
  failedDeliveries : Nat := 0
  /-- Events left over, summed over the windows. -/
  carried : Nat := 0
  failedShards : Nat := 0
  ticks : Nat := 0
  deriving DecidableEq, Repr

/-- The counts of two stretches of a run together. -/
def Counts.add (a b : Counts) : Counts :=
  { windows := a.windows + b.windows, generated := a.generated + b.generated
    truncated := a.truncated + b.truncated, sent := a.sent + b.sent
    deliveries := a.deliveries + b.deliveries
    failedDeliveries := a.failedDeliveries + b.failedDeliveries
    carried := a.carried + b.carried, failedShards := a.failedShards + b.failedShards
    ticks := a.ticks + b.ticks }

/-- The report at the end of a stream. -/
structure StreamReport where
  duration : Span
  counts : Counts
  /-- Events still waiting for a window. -/
  pending : Nat
  lag : Lag
  deriving Repr

namespace StreamReport

/-- Events handed over per second; zero for a run that took no time. -/
def eventsPerSecond (r : StreamReport) : Float :=
  if 0 < r.duration.toSeconds then Float.ofNat r.counts.sent / r.duration.toSeconds else 0

/-- The printed lines. -/
def lines (r : StreamReport) : List String :=
  ["", "=== Streamer Report ===", s!"Duration: {r.duration.text}", s!"Windows: {r.counts.windows}",
    s!"Generated: {r.counts.generated}", s!"Truncated: {r.counts.truncated}",
    s!"Sent: {r.counts.sent}", s!"Deliveries: {r.counts.deliveries}",
    s!"Failed deliveries: {r.counts.failedDeliveries}", s!"Carried: {r.counts.carried}",
    s!"Pending carry: {r.pending}", s!"Failed shards: {r.counts.failedShards}",
    "Avg events/s: " ++ Text.fixedText 2 r.eventsPerSecond] ++ r.lag.report

end StreamReport

end ShopTraffic
