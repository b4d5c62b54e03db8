import ShopTraffic.Generator
import ShopTraffic.Stream.Backlog
import ShopTraffic.Stream.Window
import ShopTraffic.Workload.Planner

/-!
# Building the queues of a shard

For every user of a shard the sessions that start in a window are generated; their events inside the
window are put in order behind the events the user carries in. All users are generated before any
queue is made, so a failure gives back what was carried in, untouched.

* `Planner.planWindow` — the session starts of one user inside a window;
* `generateUser`, `generateAll` — the sessions of one user, and of users in order up to a failure;
* `build` — the queues of a shard, or why there are none;
* `queuesOfCarried` — queues of carried events alone.
-/

namespace ShopTraffic

open Chance

/-- A user handed to a shard with the events carried in, in order of time. -/
structure Intake where
  user : User
  carried : List Event := []
  deriving Repr

/-- A user and the events still to deliver. -/
structure Queue where
  user : User
  events : List Event
  deriving Repr

/-- How many events some queues hold. -/
def pendingCount (queues : List Queue) : Nat := totalOf (·.events.length) queues

/-- All events that some queues hold. -/
def queuedEvents (queues : List Queue) : List Event := queues.flatMap (·.events)

/-- What queues hold when nothing more is delivered. -/
def leftovers (queues : List Queue) : List Carried :=
  queues.filterMap fun q => if q.events.isEmpty then none else some ⟨q.user, q.events⟩

/-- Counts of one build. -/
structure Tally where
  /-- Users with at least one event. -/
  users : Nat := 0
  /-- New events that are kept. -/
  generated : Nat := 0
  /-- Events carried in. -/
  carried : Nat := 0
  /-- New events dropped for lying outside the window. -/
  truncated : Nat := 0
  deriving DecidableEq, Repr

/-- The session starts of one user inside a window, in ascending order, drawn for the day the window
starts on. -/
def Planner.planWindow (p : Planner) (w : Window) (s : Source) : List Instant × Source :=
  let (n, s) := p.count s
  let (ts, s) := p.starts w.start.dayStart n s
  (sortInstants (ts.filter w.contains), s)

/-- Generates the sessions of a user one after the other, up to one that stops early. -/
def runSessions (generator : Generator) : List Instant → User → Source → Session
  | [], user, source => { events := [], user, source }
  | start :: starts, user, source =>
    let session := generator.run (user.moveTo start) start source
    match session.stop with
    | some _ => session
    | none =>
      let rest := runSessions generator starts session.user session.source
      { rest with events := session.events ++ rest.events }

/-- A session after others leaves their events as they are and adds its own behind them. -/
theorem runSessions_concat (generator : Generator) (earlier : List Instant) (start : Instant)
    (user : User) (source : Source) (h : (runSessions generator earlier user source).stop = none) :
    runSessions generator (earlier ++ [start]) user source =
      let before := runSessions generator earlier user source
      let session := generator.run (before.user.moveTo start) start before.source
      { session with events := before.events ++ session.events } := by
  induction earlier generalizing user source with
  | nil =>
    simp only [List.nil_append, runSessions]
    split
    · rfl
    · rename_i hstop
      rw [List.append_nil, ← hstop]
  | cons first rest ih =>
    rw [runSessions] at h
    simp only [List.cons_append, runSessions] at h ⊢
    cases hstop : (generator.run (user.moveTo first) first source).stop with
    | some stop =>
      rw [hstop] at h
      simp only [hstop, reduceCtorEq] at h
    | none =>
      simp only [hstop] at h ⊢
      rw [ih _ _ h]
      simp only [List.append_assoc]

/-- Everything a user's sessions in a window emit. -/
def generateUser (p : Planner) (generator : Generator) (w : Window) (user : User) (s : Source) :
    Session :=
  let (starts, s) := p.planWindow w s
  runSessions generator starts user s

/-- A user whose sessions are generated. -/
structure Draft where
  user : User
  carried : List Event
  /-- All events the sessions emitted. -/
  emitted : List Event
  deriving Repr

namespace Draft

/-- The new events that lie in the window, in order of time. -/
def kept (d : Draft) (w : Window) : List Event := byTime (d.emitted.filter (w.contains ·.time))

/-- Carried events, then the new ones. -/
def queued (d : Draft) (w : Window) : List Event := d.carried ++ d.kept w

/-- The user, whose window begins if there are events for it. -/
def settledUser (d : Draft) (w : Window) : User :=
  if (d.queued w).isEmpty then d.user else d.user.beginWindow (d.queued w).length

/-- The queue, if there are events for it. -/
def queue? (d : Draft) (w : Window) : Option Queue :=
  if (d.queued w).isEmpty then none else some ⟨d.settledUser w, d.queued w⟩

end Draft

/-- How far the users of a shard were generated. -/
structure Drafting where
  /-- The users that are complete. -/
  drafts : List Draft
  /-- Every user as the generator left it, in order. -/
  users : List User
  source : Source
  /-- Why a user is not complete. -/
  stop : Option (Stop GenerationError)
  deriving Repr

/-- Generates users in order; the users after one that fails are left alone. -/
def generateAll (p : Planner) (generator : Generator) (w : Window) :
    List Intake → Source → Drafting
  | [], source => ⟨[], [], source, none⟩
  | intake :: rest, source =>
    let session := generateUser p generator w intake.user source
    match session.stop with
    | some stop => ⟨[], session.user :: rest.map (·.user), session.source, some stop⟩
    | none =>
      let tail := generateAll p generator w rest session.source
      { tail with
        drafts := ⟨session.user, intake.carried, session.events⟩ :: tail.drafts
        users := session.user :: tail.users }

/-- The counts of drafts in a window. -/
def tallyOf (w : Window) (drafts : List Draft) : Tally :=
  { users := (drafts.filterMap (·.queue? w)).length
    generated := totalOf (fun d => (d.kept w).length) drafts
    carried := totalOf (·.carried.length) drafts
    truncated := totalOf (fun d => d.emitted.length - (d.kept w).length) drafts }

/-- What became of a build. -/
inductive BuildResult where
  | built (queues : List Queue) (tally : Tally)
  /-- A user could not be generated; the events carried in are handed back. -/
  | failed (cause : GenerationError) (returned : List Carried)
  | crashed (crash : Crash)
  deriving Repr

/-- A build, with every user of the shard as it left them. -/
structure Build where
  result : BuildResult
  users : List User
  source : Source
  deriving Repr

/-- The events carried in, with their users. -/
def returnedOf (users : List User) (intakes : List Intake) : List Carried :=
  (users.zip intakes).filterMap fun (user, intake) =>
    if intake.carried.isEmpty then none else some ⟨user, intake.carried⟩

/-- Builds the queues of a shard for a window. -/
def build (p : Planner) (generator : Generator) (w : Window) (intakes : List Intake) (s : Source) :
    Build :=
  let drafting := generateAll p generator w intakes s
  match drafting.stop with
  | some (.error cause) =>
    ⟨.failed cause (returnedOf drafting.users intakes), drafting.users, drafting.source⟩
  | some (.crash crash) => ⟨.crashed crash, drafting.users, drafting.source⟩
  | none =>
    ⟨.built (drafting.drafts.filterMap (·.queue? w)) (tallyOf w drafting.drafts),
      drafting.drafts.map (·.settledUser w), drafting.source⟩

/-- The text that reports a failed build. -/
def buildFailureMessage (cause : GenerationError) : String :=
  s!"Shard build failed: {cause.message}"

/-- Queues of carried events alone, for the users that have some. -/
def queuesOfCarried (intakes : List Intake) : List Queue :=
  intakes.filterMap fun i =>
    if i.carried.isEmpty then none
    else some ⟨i.user.beginWindow i.carried.length, i.carried⟩

end ShopTraffic
