import ShopTraffic.Settings.Basic
import ShopTraffic.Stream.Task

/-!
# The streamer

Generates and delivers traffic one window after the other. At the start of a window the population
grows if a new day begins, and the users active on that day are drawn; they are split into shards,
each takes what the backlog holds for its users, and what is left over goes to a task of its own.
When all tasks have ended their leftovers form the backlog of the next window.

* `Streamer.ofSettings` — the fixed parts of a stream, from settings that pass their check;
* `StreamState` — what changes from window to window;
* `Streamer.runWindow` — one window; `Streamer.step` breaks off where newcomers find no room;
  `Streamer.runWindows`, `Streamer.runUntil` — many windows;
* `WindowSummary` — the counts of a window.
-/

namespace ShopTraffic

open Chance

/-- Where a stream is within a window. -/
inductive Phase where
  | building
  | dispatching
  | mergingCarryover
  | waitingForShards
  deriving DecidableEq, Repr

/-- The phases in order. -/
def Phase.all : List Phase := [.building, .dispatching, .mergingCarryover, .waitingForShards]

def Phase.text : Phase → String
  | .building => "building"
  | .dispatching => "dispatching"
  | .mergingCarryover => "merging-carryover"
  | .waitingForShards => "waiting-for-shards"

/-- The fixed parts of a stream. -/
structure Streamer where
  settings : Settings
  planner : Planner
  /-- How many users are active on a day. -/
  activeCount : Choice Nat
  interval : Interval
  deriving Repr

/-- What changes from window to window. -/
structure StreamState where
  population : Population
  source : Source
  /-- The seats of the users active today. -/
  active : List Nat := []
  day : Option Day := none
  backlog : Backlog := {}
  last : Option Window := none
  phase : Phase := .building
  /-- Milliseconds gone by on the clock. -/
  elapsed : Nat := 0
  books : Books := {}
  deriving Repr

/-- Adds notices to the books. -/
def StreamState.notify (st : StreamState) (ns : List Notice) : StreamState :=
  { st with books := { st.books with notices := st.books.notices ++ ns } }

/-- The counts of one window. -/
structure WindowSummary where
  index : WindowIndex
  /-- Users active on the day of the window. -/
  population : Nat
  tasks : Nat
  /-- Users with events in the window. -/
  users : Nat := 0
  generated : Nat := 0
  carriedIn : Nat := 0
  carriedOut : Nat := 0
  failedShards : Nat := 0
  deriving DecidableEq, Repr

namespace Streamer

/-- Keeps a permit for the task of every shard, and one for the task of carried events. -/
def taskPermits (shards : Nat) : Outcome SettingsError Unit := do
  let permits ← (checkedAdd shards 1).mapError .crash
  if maxPermits < permits then throw (.crash .tooManyPermits)

/-- The fixed parts of a stream with the given settings. -/
def ofSettings (c : Settings) : Outcome SettingsError Streamer :=
  match h : c.check with
  | .error e => .error (.error e)
  | .ok () => do
    let planner ← (Planner.ofSettings c.workload).mapError (Stop.map .workload)
    let some activeCount := Choice.ofList? c.workload.activeChoices
      | throw (.error (.workload (.noChoices "dau_choices")))
    taskPermits c.shards
    return { settings := c, planner, activeCount
             interval := ⟨c.poll.startedMillis, Settings.poll_pos_of_check h⟩ }

/-- The state before the first window. Without a seed in the settings `entropy` stands in. -/
def start (s : Streamer) (population : Population) (entropy : Nat) : StreamState :=
  { population, source := .ofSeed (s.settings.seed.getD entropy) }

def pace (s : Streamer) : Pace := ⟨s.interval, s.settings.grace.wholeMillis⟩

/-- The next window, and the notice of a restart. -/
def nextWindow (s : Streamer) (st : StreamState) (now : Instant) : Window × List Notice :=
  match st.last with
  | none => (.ofLength ⟨0⟩ now s.settings.window.wholeMillis, [])
  | some last =>
    let (next, restarted) := last.successor now
    (next, if restarted then [.fellBehind next.index (now.since last.finish)] else [])

/-- How many users join when a window starts on `today`: some on a new day, none on the first. -/
def newcomers (s : Streamer) (today : Day) (st : StreamState) : Nat :=
  if st.day.isSome ∧ st.day ≠ some today then s.settings.workload.newUsersPerDay else 0

/-- On a new day, lets the newcomers join and draws the active users. -/
def beginDay (s : Streamer) (today : Day) (st : StreamState) : StreamState :=
  if st.day = some today then st
  else
    let joining := s.newcomers today st
    let (population, source) := st.population.grow joining st.source
    let (count, source) := s.activeCount.draw source
    let (active, source) := population.sample count source
    let st := { st with population, source, active, day := some today }
    st.notify <| (if 0 < joining then [.usersAcquired today population.size] else []) ++
      [.activeDrawn today active.length]

/-- The shares of a window: the shards in order, then what the backlog holds for others. -/
def shares (s : Streamer) (st : StreamState) : List (ShardId × List Intake × Bool) :=
  let shards := shardsOf (st.population.select st.active) s.settings.shards
  let (intakes, rest) := assign shards st.backlog
  (intakes.zipIdx.map fun (intakes, i) => (⟨i⟩, intakes, true)) ++
    match rest.entries with
    | [] => []
    | orphans => [(.carry, orphans.map fun c => ⟨c.user, c.events⟩, false)]

/-- The reports of all tasks of a window, in the order the tasks were started. -/
def perform (s : Streamer) (around : Surroundings) (w : Window) (tasks : List Task)
    (elapsed : Nat) : List TaskReport :=
  tasks.map fun t => t.perform s.planner s.pace around w elapsed

/-- The summary of a window once one more task is joined. -/
def joinSummary (summary : WindowSummary) (r : TaskReport) : WindowSummary :=
  if r.succeeded then
    let tally := r.tally?.getD {}
    { summary with
      users := summary.users + tally.users
      generated := summary.generated + tally.generated
      carriedIn := summary.carriedIn + tally.carried }
  else { summary with failedShards := summary.failedShards + 1 }

/-- The backlog that the joined tasks leave. -/
def joinBacklog (reports : List TaskReport) : Backlog :=
  reports.foldl (fun b r => b.absorb r.returned) {}

/-- The notices of joining tasks one after the other. -/
def joinNotices (w : WindowIndex) : List TaskReport → Backlog → List Notice
  | [], _ => []
  | r :: rest, b =>
    r.joinNotices w ++ (b.clashes r.returned).map .carriedTwice ++
      joinNotices w rest (b.absorb r.returned)

/-- The counts of builds and of failed tasks. -/
def taskCounts (reports : List TaskReport) : Counts :=
  let tallies := reports.filterMap (·.tally?)
  { generated := totalOf (·.generated) tallies
    truncated := totalOf (·.truncated) tallies
    failedShards := (reports.filter (!·.succeeded)).length }

/-- A window with all that it did. -/
structure WindowRun where
  state : StreamState
  window : Window
  summary : WindowSummary
  reports : List TaskReport
  deriving Repr

/-- A stream that broke off at the start of a window. -/
structure Broken where
  crash : Crash
  /-- The state it was left in. -/
  state : StreamState
  deriving Repr

/-- The end of a window: joins its tasks in the given order and closes its books. -/
def close (s : Streamer) (around : Surroundings) (w : Window) (st : StreamState)
    (reports joined : List TaskReport) : WindowRun :=
  let summary := joined.foldl joinSummary
    { index := w.index, population := st.active.length, tasks := reports.length }
  let backlog := joinBacklog joined
  let summary := { summary with carriedOut := backlog.count }
  let books := bookRuns reports around.sink s.settings.progressEvery st.books
  let counts := (books.counts.add (taskCounts reports)).add
    { windows := 1, carried := summary.carriedOut }
  let st : StreamState :=
    { st with
      population := st.population.putAll (reports.flatMap TaskReport.users)
      backlog
      last := some w
      phase := .waitingForShards
      elapsed := (reports.map TaskReport.elapsed).foldl max st.elapsed
      books := { books with counts } }
  let st := st.notify <|
    reports.flatMap (·.buildNotices w.index) ++ joinNotices w.index joined {} ++
      reports.flatMap (·.lossNotices w.index) ++
      [.windowComplete w.index w.start summary.population summary.users summary.generated
        summary.carriedIn summary.carriedOut summary.failedShards]
  { state := st, window := w, summary, reports }

/-- Tasks in the order they end. -/
def joinOrder (reports : List TaskReport) : List TaskReport :=
  reports.mergeSort fun a b => a.elapsed ≤ b.elapsed

/-- Runs one window of a population that has room for its newcomers. -/
def runWindow (s : Streamer) (around : Surroundings) (st : StreamState) : WindowRun :=
  let (w, restarted) := s.nextWindow st (around.clock.read st.elapsed)
  let st := s.beginDay w.start.day (st.notify restarted)
  let shares := s.shares st
  let (tasks, source) := dispatch shares st.source
  let st := { st with source, backlog := {} }
  let st := st.notify <| shares.flatMap fun (_, intakes, generates) =>
    if generates then [] else [.carryDispatched w.index intakes.length]
  let reports := s.perform around w tasks st.elapsed
  s.close around w st reports (joinOrder reports)

/-- Runs one window, if its newcomers find room. -/
def step (s : Streamer) (around : Surroundings) (st : StreamState) :
    Except Broken WindowRun :=
  let (w, restarted) := s.nextWindow st (around.clock.read st.elapsed)
  match claimRoom (st.population.size + s.newcomers w.start.day st) with
  | .ok () => .ok (s.runWindow around st)
  | .error crash => .error ⟨crash, st.notify restarted⟩

/-- Runs a number of windows. -/
def runWindows (s : Streamer) (around : Surroundings) :
    Nat → StreamState → Except Broken StreamState
  | 0, st => .ok st
  | n + 1, st => do s.runWindows around n (← s.step around st).state

/-- The notice at the start of a stream without an end. -/
def startNotice (s : Streamer) (st : StreamState) : Notice :=
  .streamStarted s.settings.shards s.settings.window.wholeSeconds s.settings.poll.wholeSeconds
    s.settings.grace.wholeSeconds st.population.size

/-- Runs windows until a moment is reached, but no more than `limit`. A window that has begun is
completed. -/
def runUntil (s : Streamer) (around : Surroundings) (moment : Nat) :
    (limit : Nat) → StreamState → Except Broken StreamState
  | 0, st => .ok st
  | limit + 1, st =>
    if st.elapsed < moment then do
      s.runUntil around moment limit (← s.step around st).state
    else .ok st

/-- The report over everything run so far. -/
def report (st : StreamState) (duration : Span) : StreamReport :=
  { duration, counts := st.books.counts, pending := st.backlog.count, lag := st.books.lag }

end Streamer

end ShopTraffic

