import ShopTraffic.Notice
import ShopTraffic.Population
import ShopTraffic.Settings.Basic
import ShopTraffic.Stream.Build

/-!
# Backfill

Generates whole days of the past and delivers them in bulk, unpaced. The population starts with a
quarter of all users and gains a fortieth each day. The events of a day are buffered; when the buffer
is over its threshold, and at the end of the day, it is put in order of time and delivered in full
batches that are on their way at once.

* `Backfill.ofSettings` — the fixed parts of a backfill and its first state;
* `Backfill.flush` — delivers a buffer; `Backfill.runDay`, `Backfill.run` — one day, and the days
  before one;
* `BackfillReport.lines` — the printed report.
-/

namespace ShopTraffic

open Chance

/-- Cuts a list into pieces of `n`, the last one shorter where the length is no multiple. -/
def chunksOf {α : Type} (n : Nat) (xs : List α) : List (List α) :=
  if _h : n = 0 ∨ xs = [] then [] else xs.take n :: chunksOf n (xs.drop n)
termination_by xs.length
decreasing_by
  have := List.length_pos_iff.2 fun h => _h (.inr h)
  rw [List.length_drop]; omega

theorem flatten_chunksOf {α : Type} {n : Nat} (hn : 0 < n) (xs : List α) :
    (chunksOf n xs).flatten = xs := by
  fun_induction chunksOf n xs with
  | case1 xs h => rcases h with h | h <;> simp_all
  | case2 xs _ ih => simp [ih]

/-- What a backfill has done. -/
structure BackfillReport where
  days : Nat := 0
  /-- Events handed over. -/
  events : Nat := 0
  deliveries : Nat := 0
  failedDeliveries : Nat := 0
  /-- Users whose sessions of a day could not be completed. -/
  failedUsers : Nat := 0
  /-- The population at the end. -/
  users : Nat := 0
  duration : Span := ⟨0⟩
  deriving DecidableEq, Repr

/-- The printed lines. -/
def BackfillReport.lines (r : BackfillReport) : List String :=
  ["", "=== Backfill Report ===", s!"Duration: {r.duration.text}", s!"Days: {r.days}",
    s!"Users: {r.users}", s!"Events: {r.events}", s!"Deliveries: {r.deliveries}",
    s!"Failed deliveries: {r.failedDeliveries}", s!"Failed users: {r.failedUsers}"]

/-- The fixed parts of a backfill. -/
structure Backfill where
  settings : BackfillSettings
  /-- Events of one batch are counted. -/
  batch_pos : 0 < settings.eventsPerRequest
  newUsersPerDay : Nat
  activeCount : Choice Nat
  planner : Planner
  progressEvery : Nat
  deriving Repr

/-- A backfill in progress. -/
structure BackfillState where
  population : Population
  source : Source
  elapsed : Nat := 0
  /-- Delivery numbers taken so far. -/
  issued : Nat := 0
  report : BackfillReport := {}
  /-- Events generated and not handed over. -/
  buffer : Array Event := #[]
  /-- Events of the current day handed over. -/
  dayEvents : Nat := 0
  /-- The batches under their numbers, in order. -/
  sent : Array Sent := #[]
  notices : Array Notice := #[]
  /-- How the backfill broke off. -/
  crash : Option Crash := none
  deriving Repr

namespace BackfillState

def notify (st : BackfillState) (ns : List Notice) : BackfillState :=
  { st with notices := st.notices ++ ns }

/-- The state for another run: what was reported and delivered is put aside. -/
def clear (st : BackfillState) : BackfillState :=
  { st with report := {}, sent := #[], notices := #[] }

end BackfillState

namespace Backfill

/-- The fixed parts of a backfill and its first state, with the notices on the way. The population
is made before the distributions are looked at, and must find room. Without a seed in the settings
`entropy` stands in. -/
def ofSettings (c : Settings) (entropy : Nat) :
    List Notice × Outcome SettingsError (Backfill × BackfillState) :=
  match h : c.check with
  | .error e => ([], .error (.error e))
  | .ok () =>
    match Population.generate .default (c.backfill.allUsers / 4) (.ofSeed (c.seed.getD entropy)) with
    | .error crash => ([], .error (.crash crash))
    | .ok (population, source) => ([.poolGenerated population.size], do
      let some activeCount := Choice.ofList? c.workload.activeChoices
        | throw (.error (.workload (.noChoices "dau_choices")))
      let planner ← (Planner.ofSettings c.workload).mapError (Stop.map .workload)
      let backfill : Backfill :=
        { settings := c.backfill, batch_pos := Settings.batch_pos_of_check h
          newUsersPerDay := c.backfill.allUsers / 40, activeCount, planner
          progressEvery := c.progressEvery }
      return (backfill, { population, source }))

/-- The batches of a buffer: its events in order of time, cut into full batches. -/
def batchesOf (b : Backfill) (clock : Clock) (elapsed : Nat) (events : List Event) : List Batch :=
  (chunksOf b.settings.eventsPerRequest (byTime events)).map fun chunk =>
    { owner := none, events := chunk, cut := clock.read elapsed, elapsed
      moment := clock.read elapsed }

/-- The failures of some deliveries with the batches they met. -/
def failuresOf (sink : Sink) (sent : List Sent) : List (Batch × DeliveryError) :=
  sent.filterMap fun d =>
    match sink.answer d.number d.batch with
    | .error cause => some (d.batch, cause)
    | .ok () => none

/-- Delivers events in batches that are on their way at once, and waits for all answers. -/
def flush (b : Backfill) (sink : Sink) (clock : Clock) (events : List Event)
    (st : BackfillState) : BackfillState :=
  let batches := b.batchesOf clock st.elapsed events
  let sent := numberFrom st.issued batches
  let failures := failuresOf sink sent
  let st :=
    { st with
      issued := st.issued + batches.length
      sent := st.sent ++ sent
      elapsed := st.elapsed + (batches.map sink.latency).foldl max 0
      crash := batches.findSome? sink.crash? }
  let st := st.notify <| (sent.flatMap fun d => progressNotice b.progressEvery d.number) ++
    batches.flatMap sink.notices
  if st.crash.isSome then st
  else
    let report :=
      { st.report with
        deliveries := st.report.deliveries + batches.length
        events := st.report.events + eventCount batches
        failedDeliveries := st.report.failedDeliveries + failures.length }
    let st := { st with report }
    st.notify <| failures.map fun (batch, cause) => .bulkFailed batch.events.length cause

/-- Delivers what is buffered. -/
def flushBuffer (b : Backfill) (sink : Sink) (clock : Clock) (st : BackfillState) : BackfillState :=
  let events := st.buffer.toList
  b.flush sink clock events { st with buffer := #[], dayEvents := st.dayEvents + events.length }

/-- Generates the sessions of one user on a day into the buffer. -/
def generateUserDay (b : Backfill) (generator : Generator) (day : Day) (user : User)
    (st : BackfillState) : BackfillState :=
  let (starts, source) := b.planner.planDay day.start st.source
  let session := runSessions generator starts user source
  let st :=
    { st with
      source := session.source
      population := st.population.put session.user
      buffer := st.buffer ++ session.events }
  match session.stop with
  | none => st
  | some (.crash crash) => { st with crash := some crash }
  | some (.error cause) =>
    let st := { st with report := { st.report with failedUsers := st.report.failedUsers + 1 } }
    st.notify [.sessionFailed day user.id cause]

/-- Generates the users on the given seats, `active` of them on the whole day. -/
def runUsers (b : Backfill) (generator : Generator) (sink : Sink) (clock : Clock) (day : Day)
    (active : Nat) : List Nat → BackfillState → BackfillState
  | [], st => st
  | seat :: rest, st =>
    let st :=
      match st.population.users[seat]? with
      | some user => b.generateUserDay generator day user st
      | none => st
    if st.crash.isSome then st
    else
      let st :=
        if b.settings.flushThreshold < st.buffer.size then
          b.flushBuffer sink clock (st.notify [.bufferFlushed day active rest.length])
        else st
      if st.crash.isSome then st else b.runUsers generator sink clock day active rest st

/-- Generates and delivers a day that the population has grown for. -/
def runGrown (b : Backfill) (generator : Generator) (sink : Sink) (clock : Clock) (day : Day)
    (st : BackfillState) : BackfillState :=
  let (count, source) := b.activeCount.draw st.source
  let (seats, source) := st.population.sample count source
  let st : BackfillState := { st with source, dayEvents := 0 }
  let st := st.notify [.dayStarted day seats.length st.population.size]
  let st := b.runUsers generator sink clock day seats.length seats st
  let st :=
    if st.crash.isSome ∨ st.buffer.isEmpty then st else b.flushBuffer sink clock st
  if st.crash.isSome then st
  else
    let st := st.notify [.dayDelivered day st.dayEvents]
    { st with report := { st.report with days := st.report.days + 1 } }

/-- Generates and delivers one day. It begins with the new users of the day, who must find room. -/
def runDay (b : Backfill) (generator : Generator) (sink : Sink) (clock : Clock) (day : Day)
    (st : BackfillState) : BackfillState :=
  if st.crash.isSome then st
  else
    match st.population.checkedGrow b.newUsersPerDay st.source with
    | .error crash => { st with crash := some crash }
    | .ok (population, source) => b.runGrown generator sink clock day { st with population, source }

/-- Generates and delivers days one after the other, and closes the report. -/
def runDays (b : Backfill) (generator : Generator) (sink : Sink) (clock : Clock) (days : List Day)
    (st : BackfillState) : BackfillState :=
  let st := days.foldl (fun st day => b.runDay generator sink clock day st) st
  if st.crash.isSome then st
  else
    let report := { st.report with users := st.population.size }
    let st := { st with report }
    st.notify [.backfillFinished report.days report.events report.deliveries]

/-- Generates and delivers the days before `today`, which are listed first. -/
def run (b : Backfill) (generator : Generator) (sink : Sink) (clock : Clock) (today : Day)
    (st : BackfillState) : BackfillState :=
  match today.checkedPreceding b.settings.days with
  | .error crash => { st with crash := some crash }
  | .ok days => b.runDays generator sink clock days st

end Backfill

end ShopTraffic
