import ShopTraffic.Chance.Table
import ShopTraffic.Time.Instant
import ShopTraffic.Workload.Settings

/-!
# Planning session starts

A session starts in an hour drawn by weight, in one of the minutes to choose from, at a second and a
millisecond drawn uniformly, all counted from the midnight of a day.

* `Planner.ofSettings` — the planner of settings that pass their check;
* `Planner.start`, `Planner.starts` — one start, and a number of them in the order drawn;
* `Planner.planDay` — the sorted starts of one user on one day.
-/

namespace ShopTraffic

open Chance

/-- Draws session counts and session starts. -/
structure Planner where
  counts : Choice Nat
  hours : Table Nat
  minutes : Choice Nat
  deriving Repr

/-- Instants in ascending order. -/
def sortInstants (ts : List Instant) : List Instant := ts.mergeSort fun a b => a ≤ b

namespace Planner

/-- The weights of the hours, paired with the hours. -/
def hourEntries (weights : List Nat) : List (Nat × Nat) := weights.zipIdx.map fun (w, h) => (h, w)

/-- The planner of checked settings. The sum of the hour weights must fit 32 bits. -/
def ofSettings (c : WorkloadSettings) : Outcome WorkloadError Planner := do
  c.check.mapError .error
  let some counts := Choice.ofList? c.sessionCountChoices
    | throw (.error (.noChoices "session_count_choices"))
  let some hours ← (Table.ofEntries (hourEntries c.hourWeights)).mapError .crash
    | throw (.error .noHour)
  let some minutes := Choice.ofList? c.minuteChoices
    | throw (.error (.noChoices "visit_minute_choices"))
  return { counts, hours, minutes }

/-- How many sessions a user has on a day. -/
def count (p : Planner) (s : Source) : Nat × Source := p.counts.draw s

/-- One session start on the day that begins at `dayStart`. -/
def start (p : Planner) (dayStart : Instant) (s : Source) : Instant × Source :=
  let (hour, s) := p.hours.draw s
  let (minute, s) := p.minutes.draw s
  let (second, s) := s.between .wide 0 59
  let (milli, s) := s.between .wide 0 999
  (dayStart.plus (hour * 3600000 + minute * 60000 + second * 1000 + milli), s)

/-- A number of session starts in the order drawn. -/
def starts (p : Planner) (dayStart : Instant) : Nat → Source → List Instant × Source
  | 0, s => ([], s)
  | n + 1, s =>
    let (t, s) := p.start dayStart s
    let (ts, s) := p.starts dayStart n s
    (t :: ts, s)

/-- Every session start of one user on one day, in ascending order. -/
def planDay (p : Planner) (dayStart : Instant) (s : Source) : List Instant × Source :=
  let (n, s) := p.count s
  let (ts, s) := p.starts dayStart n s
  (sortInstants ts, s)

@[simp] theorem length_starts (p : Planner) (dayStart : Instant) (n : Nat) (s : Source) :
    (p.starts dayStart n s).1.length = n := by
  induction n generalizing s with
  | zero => rfl
  | succ n ih => simp [starts, ih]

end Planner

end ShopTraffic
