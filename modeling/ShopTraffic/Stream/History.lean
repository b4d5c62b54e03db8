import ShopTraffic.Stream.Streamer

/-!
# Histories of a stream

A history is a stream on record. Time may pass before each window, and what a window works with (the
generator, the sink, the clocks) may differ from what the window before it worked with, so that a
statement about every history is a statement about collaborators that change while a stream runs.

* `Occasion` — what a window meets; `Episode` — a window and the state it began in;
* `Streamer.record` — runs one window on each occasion and keeps the episodes;
* `Task.kept`, `Episode.kept` — the new events that builds keep, the source of all that is delivered;
* `runWindows_eq_record` — a number of windows in unchanging surroundings is a history.
-/

namespace ShopTraffic

/-- What a window meets. -/
structure Occasion where
  around : Surroundings
  /-- Milliseconds that pass before the window begins. -/
  wait : Nat := 0

/-- A window on record. -/
structure Episode where
  around : Surroundings
  /-- The state in which the window began. -/
  before : StreamState
  run : Streamer.WindowRun

/-- The new events that the build of a task keeps: those inside the window, none where a session
stops early. -/
def Task.kept (t : Task) (p : Planner) (generator : Generator) (w : Window) : List Event :=
  if t.generates then
    let drafting := generateAll p generator w t.intakes t.source
    if drafting.stop.isSome then [] else drafting.drafts.flatMap (·.kept w)
  else []

/-- The new events that the builds of an episode keep. -/
def Episode.kept (s : Streamer) (e : Episode) : List Event :=
  e.run.reports.flatMap fun r => r.task.kept s.planner e.around.generator e.run.window

/-- No task of an episode crashed. -/
def Episode.calm (e : Episode) : Bool := e.run.reports.all (!·.crashed)

/-- Lets time pass. -/
def StreamState.wait (st : StreamState) (n : Nat) : StreamState := { st with elapsed := st.elapsed + n }

namespace Streamer

/-- Runs a window on each occasion. Gives the episodes in order and the state at the end. -/
def record (s : Streamer) : List Occasion → StreamState → Except Broken (List Episode × StreamState)
  | [], st => .ok ([], st)
  | o :: rest, st => do
    let run ← s.step o.around (st.wait o.wait)
    let (episodes, last) ← s.record rest run.state
    return (⟨o.around, st.wait o.wait, run⟩ :: episodes, last)

variable {s : Streamer} {around : Surroundings} {st st' : StreamState} {run : WindowRun}

/-- A step that succeeds found room for its newcomers and ran its window. -/
theorem step_eq_ok_iff :
    s.step around st = .ok run ↔
      st.population.size +
          s.newcomers (s.nextWindow st (around.clock.read st.elapsed)).1.start.day st ≤ maxItems ∧
        run = s.runWindow around st := by
  unfold step claimRoom
  simp only
  split <;> rename_i h
  · split at h
    · rename_i hroom
      simp only [Except.ok.injEq, hroom, true_and, eq_comm]
    · cases h
  · split at h
    · cases h
    · rename_i hroom
      simp only [hroom, false_and, reduceCtorEq]

/-- A history with a first window: its step succeeds and the rest is a history from there. -/
theorem record_cons_eq_ok_iff {o : Occasion} {os : List Occasion} {es : List Episode} :
    s.record (o :: os) st = .ok (es, st') ↔
      ∃ run rest, s.step o.around (st.wait o.wait) = .ok run ∧
        s.record os run.state = .ok (rest, st') ∧ es = ⟨o.around, st.wait o.wait, run⟩ :: rest := by
  simp only [record]
  cases hrun : s.step o.around (st.wait o.wait) with
  | error b => simp [bind, Except.bind]
  | ok run =>
    cases hrest : s.record os run.state with
    | error b => simp [bind, Except.bind, hrest]
    | ok result =>
      obtain ⟨rest, last⟩ := result
      simp only [bind, Except.bind, hrest, pure, Except.pure, Except.ok.injEq, Prod.mk.injEq]
      constructor
      · rintro ⟨rfl, rfl⟩
        exact ⟨run, rest, rfl, hrest, rfl⟩
      · rintro ⟨_, _, rfl, hrest', rfl⟩
        rw [hrest] at hrest'
        cases hrest'
        exact ⟨rfl, rfl⟩

/-- A number of windows in unchanging surroundings is a history. -/
theorem runWindows_eq_record (s : Streamer) (around : Surroundings) :
    ∀ (n : Nat) (st : StreamState),
      s.runWindows around n st = (s.record (List.replicate n { around }) st).map (·.2)
  | 0, st => rfl
  | n + 1, st => by
    simp only [runWindows, List.replicate_succ, record, StreamState.wait, Nat.add_zero]
    cases hrun : s.step around st with
    | error b => rfl
    | ok run =>
      simp only [bind, Except.bind]
      rw [runWindows_eq_record s around n run.state]
      cases s.record (List.replicate n { around }) run.state <;> rfl

end Streamer

end ShopTraffic
