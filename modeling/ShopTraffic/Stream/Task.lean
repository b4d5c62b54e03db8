import ShopTraffic.Population
import ShopTraffic.Stream.Books

/-!
# The tasks of a window

A window is worked on by one task for each shard and, where users outside the shards have events
left over, by one more that only delivers these. All tasks start at the same moment and share
nothing but the numbers of their deliveries.

* `Task`, `Task.perform` — a task and its work;
* `TaskReport` — what a task leaves behind;
* `assign`, `dispatch` — how users, carried events and chance are shared out;
* `bookRuns` — the deliveries of all tasks in one order of time.
-/

namespace ShopTraffic

open Chance

/-- What a stream works with. -/
structure Surroundings where
  generator : Generator
  sink : Sink
  clock : Clock
  /-- The clock as the task of a shard comes to read it. Tasks that are held up while they are built,
  or that run at once, need not see the same readings. -/
  taskClock : ShardId → Clock := fun _ => clock

/-- How the tasks of a stream pace their deliveries. -/
structure Pace where
  interval : Interval
  /-- Milliseconds a task goes on after its window. -/
  grace : Nat
  deriving DecidableEq, Repr

/-- A share of the work of a window. -/
structure Task where
  shard : ShardId
  intakes : List Intake
  /-- New sessions are generated. -/
  generates : Bool
  source : Source
  deriving Repr

/-- How many carried events a task was given. -/
def Task.carried (t : Task) : Nat := totalOf (·.carried.length) t.intakes

/-- How a task ended. -/
inductive TaskEnd where
  /-- The queues were paced; the run may have broken off. -/
  | paced (tally : Tally) (run : Run)
  | buildFailed (cause : GenerationError) (returned : List Carried)
  | buildCrashed (crash : Crash)
  deriving Repr

/-- What a task leaves behind. -/
structure TaskReport where
  task : Task
  finish : TaskEnd
  /-- Users as the task left them, a later entry for a user counting. -/
  users : List User
  /-- When the task ended. -/
  elapsed : Nat
  deriving Repr

namespace Task

/-- The queues of a task, or how its build ended, and the users as the build left them. -/
def prepare (t : Task) (p : Planner) (generator : Generator) (w : Window) : BuildResult × List User :=
  if t.generates then
    let b := build p generator w t.intakes t.source
    (b.result, b.users)
  else
    let queues := queuesOfCarried t.intakes
    (.built queues { users := queues.length, carried := t.carried }, [])

/-- Builds the queues of a task and paces them. -/
def perform (t : Task) (p : Planner) (pace : Pace) (around : Surroundings) (w : Window)
    (elapsed : Nat) : TaskReport :=
  match t.prepare p around.generator w with
  | (.built queues tally, users) =>
    let run :=
      ShopTraffic.pace around.sink (around.taskClock t.shard) pace.interval pace.grace w.finish queues
        elapsed
    ⟨t, .paced tally run, users ++ run.queues.map (·.user), run.elapsed⟩
  | (.failed cause returned, users) => ⟨t, .buildFailed cause returned, users, elapsed⟩
  | (.crashed crash, users) => ⟨t, .buildCrashed crash, users, elapsed⟩

end Task

namespace TaskReport

/-- The run of a task that came to pacing. -/
def run? (r : TaskReport) : Option Run :=
  match r.finish with
  | .paced _ run => some run
  | _ => none

/-- The batches of a task with what became of them. -/
def attempts (r : TaskReport) : List Attempt := (r.run?.map Run.attempts).getD []

/-- The counts of a task whose build succeeded. -/
def tally? (r : TaskReport) : Option Tally :=
  match r.finish with
  | .paced tally _ => some tally
  | _ => none

/-- Whether a task broke off while pacing. -/
def brokeOff (r : TaskReport) : Bool := r.run?.any (·.broken.isSome)

/-- What a task returns to the backlog: what its queues still hold, or what a failed build hands
back. A task that broke off returns nothing. -/
def returned (r : TaskReport) : List Carried :=
  match r.finish with
  | .paced _ run => if run.broken.isSome then [] else leftovers run.queues
  | .buildFailed _ returned => returned
  | .buildCrashed _ => []

/-- Whether a task crashed, while its queues were built or while they were paced. -/
def crashed (r : TaskReport) : Bool :=
  match r.finish with
  | .paced _ run => run.broken.isSome
  | .buildFailed _ _ => false
  | .buildCrashed _ => true

/-- Whether a task delivered to its deadline. -/
def succeeded (r : TaskReport) : Bool := r.run?.any (·.broken.isNone)

/-- The notices of a build. -/
def buildNotices (r : TaskReport) (w : WindowIndex) : List Notice :=
  match r.finish with
  | .paced tally _ =>
    if r.task.generates then [.shardBuilt w tally.users tally.generated tally.carried] else []
  | _ => []

/-- The notices of a task that did not deliver to its deadline, when it is joined. -/
def joinNotices (r : TaskReport) (w : WindowIndex) : List Notice :=
  match r.finish with
  | .paced _ run => if run.broken.isSome then [.shardCrashed w] else []
  | .buildFailed cause returned =>
    [.buildFailed w r.task.shard r.task.intakes.length (carriedCount returned) cause]
  | .buildCrashed _ => [.buildCrashed w r.task.shard r.task.intakes.length r.task.carried]

/-- The notices of a task that broke off while pacing, once all others are joined. -/
def lossNotices (r : TaskReport) (w : WindowIndex) : List Notice :=
  if r.brokeOff then [.shardLost w r.task.shard r.task.intakes.length r.task.carried] else []

end TaskReport

/-- Hands the users of a shard what the backlog holds for them. -/
def takeIn : List User → Backlog → List Intake × Backlog
  | [], b => ([], b)
  | u :: us, b =>
    let (events, b) := b.take u.id
    let (intakes, b) := takeIn us b
    (⟨u, events.getD []⟩ :: intakes, b)

/-- Hands every shard what the backlog holds for its users, shard by shard. -/
def assign : List (List User) → Backlog → List (List Intake) × Backlog
  | [], b => ([], b)
  | us :: shards, b =>
    let (intakes, b) := takeIn us b
    let (rest, b) := assign shards b
    (intakes :: rest, b)

/-- Gives every share of the work a source of its own, seeded with one draw each. -/
def dispatch : List (ShardId × List Intake × Bool) → Source → List Task × Source
  | [], s => ([], s)
  | (shard, intakes, generates) :: rest, s =>
    let (seed, s) := s.word .wide
    let (tasks, s) := dispatch rest s
    (⟨shard, intakes, generates, .ofSeed seed.val⟩ :: tasks, s)

/-- The batches of all tasks in the order of time; of batches at one moment those of the earlier task
come first. -/
def inOrder (reports : List TaskReport) : List ShardAttempt :=
  (reports.flatMap fun r => r.attempts.map (⟨r.task.shard, ·⟩)).mergeSort
    fun a b => a.attempt.batch.elapsed ≤ b.attempt.batch.elapsed

/-- Books the runs of all tasks of a window. -/
def bookRuns (reports : List TaskReport) (sink : Sink) (every : Nat) (b : Books) : Books :=
  let b := b.enterAll sink every (inOrder reports)
  let ended := reports.filterMap fun r => r.run?.bind fun run =>
    if run.broken.isSome then none else some (r.task.shard, run)
  { b with
    counts := { b.counts with ticks := b.counts.ticks + totalOf (·.2.ticks.size) ended }
    notices := b.notices ++ ended.flatMap fun (shard, run) => run.deadlineNotice shard }

end ShopTraffic
