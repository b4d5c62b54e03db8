import Mathlib
import ShopTraffic.Proofs.Windows

/-!
# What a task depends on

A task asks its generator for sessions of its own users and hands its sink batches of its own users.
Two generators that agree on these users, and two sinks that take the same time for their batches
and break off on the same ones, lead the task to one and the same report. What a sink answers does
not matter.

* `Generator.AgreesOn`, `Sink.AgreesOn` — agreement on the users of a place;
* `generateAll_congr`, `prepare_congr` — a build; `serve_congr`, `toDeadline_congr` — a run, tick by
  tick;
* `Task.perform_congr` — the whole task.
-/

set_option autoImplicit false

namespace ShopTraffic

open Chance

/-- Generators give the users of a place the same sessions. -/
def Generator.AgreesOn (generator generator' : Generator) (place : UserId × Nat) : Prop :=
  ∀ user start source, user.place = place →
    generator' user start source = generator user start source

/-- Sinks take the same time for the batches of a place's users and break off on the same ones. -/
def Sink.AgreesOn (sink sink' : Sink) (place : UserId × Nat) : Prop :=
  ∀ b user, b.owner = some user → user.place = place →
    sink'.latency b = sink.latency b ∧ sink'.crash? b = sink.crash? b

/-! ## Builds -/

section Builds

variable {generator generator' : Generator}

theorem run_congr {user : User} (h : generator.AgreesOn generator' user.place) (start : Instant)
    (source : Source) :
    generator'.run (user.moveTo start) start source =
      generator.run (user.moveTo start) start source := by
  unfold Generator.run
  rw [h (user.moveTo start) start source rfl]

/-- A session leaves its user in place, so the next one is generated alike again. -/
theorem runSessions_congr {place : UserId × Nat} (h : generator.AgreesOn generator' place) :
    ∀ (starts : List Instant) (user : User) (source : Source), user.place = place →
      runSessions generator' starts user source = runSessions generator starts user source
  | [], _, _, _ => rfl
  | start :: starts, user, source, hplace => by
    have hrun := run_congr (hplace.symm ▸ h) start source
    have hresumes := generator.run_resumes user start source
    unfold runSessions
    simp only [hrun]
    rw [runSessions_congr h starts _ _ (hresumes.place_eq.trans hplace)]

theorem generateUser_congr {user : User} (h : generator.AgreesOn generator' user.place)
    (p : Planner) (w : Window) (source : Source) :
    generateUser p generator' w user source = generateUser p generator w user source := by
  unfold generateUser
  cases p.planWindow w source with
  | mk starts source => exact runSessions_congr h starts user source rfl

theorem generateAll_congr (p : Planner) (w : Window) :
    ∀ (intakes : List Intake) (source : Source),
      (∀ i ∈ intakes, generator.AgreesOn generator' i.user.place) →
      generateAll p generator' w intakes source = generateAll p generator w intakes source
  | [], _, _ => rfl
  | i :: rest, source, h => by
    obtain ⟨hi, hrest⟩ := List.forall_mem_cons.1 h
    unfold generateAll
    simp only [generateUser_congr hi]
    rw [generateAll_congr p w rest _ hrest]

/-- A build depends on the sessions of its users alone. -/
theorem Task.prepare_congr {t : Task} (h : ∀ i ∈ t.intakes, generator.AgreesOn generator' i.user.place)
    (p : Planner) (w : Window) : t.prepare p generator' w = t.prepare p generator w := by
  unfold prepare build
  rw [generateAll_congr p w t.intakes t.source h]

end Builds

/-! ## Runs -/

section Runs

variable {sink sink' : Sink} {clock : Clock} {interval : Interval}

theorem serve_congr (now : Instant) (queues : List Queue) (elapsed : Nat)
    (h : ∀ q ∈ queues, sink.AgreesOn sink' q.user.place) :
    serve sink' clock now queues elapsed = serve sink clock now queues elapsed := by
  induction queues generalizing elapsed with
  | nil => rfl
  | cons q rest ih =>
    obtain ⟨hq, hrest⟩ := List.forall_mem_cons.1 h
    have hbatch : ∀ events cut elapsed moment,
        sink'.latency ⟨some q.user, events, cut, elapsed, moment⟩ =
            sink.latency ⟨some q.user, events, cut, elapsed, moment⟩ ∧
          sink'.crash? ⟨some q.user, events, cut, elapsed, moment⟩ =
            sink.crash? ⟨some q.user, events, cut, elapsed, moment⟩ :=
      fun _ _ _ _ => hq _ q.user rfl rfl
    unfold serve
    simp only [(hbatch _ _ _ _).1, (hbatch _ _ _ _).2, ih _ hrest]

theorem Run.step_congr {r : Run} (h : ∀ q ∈ r.queues, sink.AgreesOn sink' q.user.place) :
    r.step sink' clock interval = r.step sink clock interval := by
  unfold step
  rw [serve_congr _ _ _ h]

/-- A tick leaves every queue with its user, so the next one goes alike again. -/
theorem Run.agreesOn_step {r : Run} (h : ∀ q ∈ r.queues, sink.AgreesOn sink' q.user.place) :
    ∀ q ∈ (r.step sink clock interval).queues, sink.AgreesOn sink' q.user.place := by
  have hplaces := (serve_served sink clock (clock.read r.elapsed) r.queues r.elapsed).places
  intro q hq
  have hmem : q.user.place ∈ r.queues.map (·.user.place) := by
    rw [← hplaces]
    exact List.mem_map_of_mem (f := fun q : Queue => q.user.place) hq
  obtain ⟨q', hq', hplace⟩ := List.mem_map.1 hmem
  rw [← hplace]
  exact h q' hq'

theorem Run.toDeadline_congr (deadline : Instant) (r : Run)
    (h : ∀ q ∈ r.queues, sink.AgreesOn sink' q.user.place) :
    toDeadline sink' clock interval deadline r = toDeadline sink clock interval deadline r := by
  fun_induction toDeadline sink clock interval deadline r with
  | case1 r hgoes next hnext ih =>
    rw [toDeadline, if_pos hgoes]
    simp only [step_congr h]
    rw [dif_pos hnext]
    exact ih (agreesOn_step h)
  | case2 r hgoes next hnext =>
    rw [toDeadline, if_pos hgoes]
    simp only [step_congr h]
    rw [dif_neg hnext]
  | case3 r hover => rw [toDeadline, if_neg hover]

/-- A run depends on the batches of its users alone. -/
theorem pace_congr {queues : List Queue} (h : ∀ q ∈ queues, sink.AgreesOn sink' q.user.place)
    (grace : Nat) (finish : Instant) (elapsed : Nat) :
    pace sink' clock interval grace finish queues elapsed =
      pace sink clock interval grace finish queues elapsed :=
  Run.toDeadline_congr _ _ h

end Runs

/-- The users of the queues of a task are users of the task. -/
theorem Task.Prepared.places {t : Task} {w : Window} {kept : List Event} {queues : List Queue}
    {tally : Tally} {users : List User} (h : t.Prepared w kept (.built queues tally, users)) :
    ∀ q ∈ queues, ∃ i ∈ t.intakes, q.user.place = i.user.place := by
  intro q hq
  cases h with
  | built hdrafts _ _ _ =>
    have hmem := (queue_places_sublist w hdrafts).subset
      (List.mem_map_of_mem (f := fun q : Queue => q.user.place) hq)
    obtain ⟨i, hi, hplace⟩ := List.mem_map.1 hmem
    exact ⟨i, hi, hplace.symm⟩

/-- **A task depends on its own users alone**: where generators and sinks agree on them, and its
clock is the same, it leaves the same report. -/
theorem Task.perform_congr {t : Task} {around around' : Surroundings}
    (hgenerator : ∀ i ∈ t.intakes, around.generator.AgreesOn around'.generator i.user.place)
    (hsink : ∀ i ∈ t.intakes, around.sink.AgreesOn around'.sink i.user.place)
    (hclock : around'.taskClock t.shard = around.taskClock t.shard) (p : Planner) (pace : Pace)
    (w : Window) (start : Nat) :
    t.perform p pace around' w start = t.perform p pace around w start := by
  have hprepared := t.prepare_prepared p around.generator w
  unfold perform
  rw [prepare_congr hgenerator, hclock]
  generalize t.prepare p around.generator w = prepared at hprepared
  obtain ⟨result, users⟩ := prepared
  cases result with
  | built queues tally =>
    have hqueues : ∀ q ∈ queues, around.sink.AgreesOn around'.sink q.user.place := by
      intro q hq
      obtain ⟨i, hi, hplace⟩ := hprepared.places q hq
      exact hplace ▸ hsink i hi
    simp only [pace_congr hqueues]
  | failed cause returned => rfl
  | crashed crash => rfl

end ShopTraffic
