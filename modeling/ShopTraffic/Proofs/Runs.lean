import Mathlib
import ShopTraffic.Proofs.Draining

/-!
# Runs of a pacer

* `pace_paced` — a run paces its queues tick by tick; `pace_moments`, `pace_cuts` — when its batches
  are handed over and where they are cut;
* `pace_first_tick` — a run that begins in time begins with a tick; `pace_past_deadline` — a run that
  does not break off ends past its deadline;
* `pace_unbroken` — a run breaks off only where its sink does or a count leaves its range;
  `pace_elapsed_le` — how late a run ends where deliveries take no time;
* `pace_idle`, `pace_batches_of_crashing` — runs that hand nothing over; `pace_batches_ne_nil` — a run
  that breaks off is none of them.
-/

set_option autoImplicit false

namespace ShopTraffic

variable {sink : Sink} {clock : Clock} {interval : Interval}

theorem Run.attempts_step {r : Run} (h : r.broken = none) :
    (r.step sink clock interval).attempts =
      r.attempts ++ (serve sink clock (clock.read r.elapsed) r.queues r.elapsed).attempts := by
  rw [Run.attempts_eq, Run.attempts_eq, h]
  unfold Tick.attempts Run.step
  simp only [Array.toList_appendList]
  exact attemptsOf_append _ _ serve_batches_ne_nil

/-- A tick that ran for its whole length handed over all its batches. -/
theorem recorded_of_serve {now : Instant} {queues : List Queue} {elapsed : Nat} {a : Attempt}
    (h : (serve sink clock now queues elapsed).broken = none)
    (ha : a ∈ (serve sink clock now queues elapsed).attempts) : a.recorded := by
  unfold Tick.attempts at ha
  rw [h] at ha
  exact recorded_of_attemptsOf_none ha

/-- Every run paces the queues it began with, one tick after the other. -/
theorem Run.toDeadline_paced (sink : Sink) (clock : Clock) (interval : Interval) (deadline : Instant)
    (r : Run) (h : r.broken = none) :
    ∃ as ticks, (toDeadline sink clock interval deadline r).attempts = r.attempts ++ as ∧
      (toDeadline sink clock interval deadline r).ticks.toList = r.ticks.toList ++ ticks ∧
      Paced r.queues as (toDeadline sink clock interval deadline r).queues := by
  fun_induction toDeadline sink clock interval deadline r with
  | case1 r _ next hnext ih =>
    obtain ⟨as, ticks, hattempts, hticks, hpaced⟩ := ih hnext
    refine ⟨_ ++ as, r.elapsed :: ticks, ?_, ?_, .tick (serve_served _ _ _ _ _) hpaced⟩
    · rw [hattempts, attempts_step h, List.append_assoc]
    · rw [hticks]
      simp [next, step]
  | case2 r _ next _ =>
    refine ⟨_, [r.elapsed], attempts_step h, by simp [next, step], ?_⟩
    have hpaced := Paced.tick (serve_served sink clock (clock.read r.elapsed) r.queues r.elapsed)
      (.rest _)
    rwa [List.append_nil] at hpaced
  | case3 r _ => exact ⟨[], [], by simp, by simp, .rest _⟩

/-- The batches of a run are handed over one after the other. -/
theorem Run.toDeadline_moments (deadline : Instant) (r : Run)
    (h : r.batches.toList.Pairwise (·.elapsed ≤ ·.elapsed))
    (hlast : ∀ b ∈ r.batches.toList, b.elapsed ≤ r.elapsed) :
    (toDeadline sink clock interval deadline r).batches.toList.Pairwise
      (·.elapsed ≤ ·.elapsed) := by
  have hstep : ∀ r : Run, r.batches.toList.Pairwise (·.elapsed ≤ ·.elapsed) →
      (∀ b ∈ r.batches.toList, b.elapsed ≤ r.elapsed) →
      (r.step sink clock interval).batches.toList.Pairwise (·.elapsed ≤ ·.elapsed) ∧
        ∀ b ∈ (r.step sink clock interval).batches.toList,
          b.elapsed ≤ (r.step sink clock interval).elapsed := by
    intro r h hlast
    obtain ⟨hpair, hbounds⟩ := serve_moments sink clock (clock.read r.elapsed) r.queues r.elapsed
    have hle := serve_elapsed_le sink clock (clock.read r.elapsed) r.queues r.elapsed
    have hend : (serve sink clock (clock.read r.elapsed) r.queues r.elapsed).elapsed ≤
        (r.step sink clock interval).elapsed := by
      simp only [step]
      split <;> omega
    simp only [step, Array.toList_appendList, List.pairwise_append, List.mem_append] at hend ⊢
    refine ⟨⟨h, hpair, fun b hb c hc => ?_⟩, ?_⟩
    · have := hlast b hb
      have := (hbounds c hc).1
      omega
    · rintro b (hb | hb)
      · have := hlast b hb
        omega
      · have := (hbounds b hb).2
        omega
  fun_induction toDeadline sink clock interval deadline r with
  | case1 r _ next _ ih => exact ih (hstep r h hlast).1 (hstep r h hlast).2
  | case2 r _ next _ => exact (hstep r h hlast).1
  | case3 r _ => exact h

/-- Every batch of a run was cut at the reading with which one of its ticks began. -/
theorem Run.toDeadline_cuts (deadline : Instant) (r : Run) {b : Batch}
    (hb : b ∈ (toDeadline sink clock interval deadline r).batches.toList) :
    b ∈ r.batches.toList ∨
      ∃ tick ∈ (toDeadline sink clock interval deadline r).ticks.toList,
        tick ≤ b.elapsed ∧ b.cut = clock.read tick := by
  have hstep : ∀ {r : Run}, b ∈ (r.step sink clock interval).batches.toList →
      b ∈ r.batches.toList ∨ r.elapsed ≤ b.elapsed ∧ b.cut = clock.read r.elapsed := by
    intro r hb
    simp only [step, Array.toList_appendList, List.mem_append] at hb
    exact hb.imp id fun hb => ⟨((serve_moments _ _ _ _ _).2 b hb).1, serve_cut hb⟩
  fun_induction toDeadline sink clock interval deadline r with
  | case1 r _ next hnext ih =>
    obtain ⟨_, ticks, -, hticks, -⟩ := toDeadline_paced sink clock interval deadline next hnext
    refine (ih hb).elim (fun hb => (hstep hb).imp id fun htick => ⟨r.elapsed, ?_, htick⟩) .inr
    rw [hticks]
    simp [next, step]
  | case2 r _ next _ =>
    exact (hstep hb).imp id fun htick => ⟨r.elapsed, by simp [next, step], htick⟩
  | case3 r _ => exact .inl hb

/-- A run that did not break off ended because the time had come. -/
theorem Run.toDeadline_end (deadline : Instant) (r : Run)
    (h : (toDeadline sink clock interval deadline r).broken = none) :
    r.elapsed ≤ (toDeadline sink clock interval deadline r).elapsed ∧
      (clock.horizon deadline ≤ (toDeadline sink clock interval deadline r).elapsed ∨
        deadline < clock.read (toDeadline sink clock interval deadline r).elapsed) := by
  fun_induction toDeadline sink clock interval deadline r with
  | case1 r _ next hnext ih =>
    have hlt : r.elapsed < next.elapsed := lt_elapsed_step r sink clock interval hnext
    obtain ⟨hle, hend⟩ := ih h
    exact ⟨by omega, hend⟩
  | case2 r _ next hnext => exact absurd h hnext
  | case3 r hover =>
    refine ⟨Nat.le_refl _, ?_⟩
    simp only [Instant.le_def] at hover
    simp only [Instant.lt_def]
    omega

/-- **What a run does.** -/
theorem pace_paced (sink : Sink) (clock : Clock) (interval : Interval) (grace : Nat)
    (finish : Instant) (queues : List Queue) (elapsed : Nat) :
    Paced queues (pace sink clock interval grace finish queues elapsed).attempts
      (pace sink clock interval grace finish queues elapsed).queues := by
  obtain ⟨as, -, hattempts, -, hpaced⟩ := Run.toDeadline_paced sink clock interval
    (finish.plus grace) { queues, elapsed } rfl
  unfold pace
  rw [hattempts]
  exact hpaced

variable {grace : Nat} {finish : Instant} {queues : List Queue} {elapsed : Nat}

theorem Run.recorded_of_broken_eq_none {r : Run} (h : r.broken = none) {a : Attempt}
    (ha : a ∈ r.attempts) : a.recorded := by
  rw [Run.attempts_eq, h] at ha
  exact recorded_of_attemptsOf_none ha

theorem pace_moments :
    (pace sink clock interval grace finish queues elapsed).batches.toList.Pairwise
      (·.elapsed ≤ ·.elapsed) :=
  Run.toDeadline_moments _ _ .nil fun _ h => absurd h List.not_mem_nil

/-- Every batch was cut at the reading with which one of the ticks began. -/
theorem pace_cuts {b : Batch}
    (hb : b ∈ (pace sink clock interval grace finish queues elapsed).batches.toList) :
    ∃ tick ∈ (pace sink clock interval grace finish queues elapsed).ticks.toList,
      tick ≤ b.elapsed ∧ b.cut = clock.read tick :=
  (Run.toDeadline_cuts _ _ hb).resolve_left List.not_mem_nil

/-- A run that begins in time and does not break off begins with a tick, at its first reading. -/
theorem pace_first_tick (hstart : elapsed < clock.horizon (finish.plus grace))
    (hread : clock.read elapsed ≤ finish.plus grace)
    (hbroken : (pace sink clock interval grace finish queues elapsed).broken = none) :
    (pace sink clock interval grace finish queues elapsed).ticks.toList.head? = some elapsed ∧
      ∃ as bs qs, Served (clock.read elapsed) queues as qs ∧ (∀ a ∈ as, a.recorded) ∧
        (pace sink clock interval grace finish queues elapsed).attempts = as ++ bs := by
  unfold pace at hbroken ⊢
  rw [Run.toDeadline, if_pos ⟨hstart, hread⟩] at hbroken ⊢
  simp only at hbroken ⊢
  split at hbroken
  · rename_i hnext
    rw [dif_pos hnext]
    obtain ⟨as, ticks, hattempts, hticks, -⟩ := Run.toDeadline_paced sink clock interval
      (finish.plus grace) _ hnext
    refine ⟨by rw [hticks]; simp [Run.step], _, as, _, serve_served _ _ _ _ _,
      fun a ha => recorded_of_serve hnext ha, ?_⟩
    rw [hattempts, Run.attempts_step rfl]
    rfl
  · rename_i hnext
    exact absurd hbroken hnext

/-- On a clock that keeps time a run that did not break off ends past its deadline. -/
theorem pace_past_deadline {origin : Instant} (hlast : finish.millis + grace < 0xFFFFFFFFFFFFFFFF)
    (hbroken :
      (pace sink (.startingAt origin) interval grace finish queues elapsed).broken = none) :
    elapsed ≤ (pace sink (.startingAt origin) interval grace finish queues elapsed).elapsed ∧
      finish.millis + grace <
        (origin.plus (pace sink (.startingAt origin) interval grace finish queues elapsed).elapsed).millis
      := by
  obtain ⟨hle, hend⟩ := Run.toDeadline_end (finish.plus grace) { queues, elapsed } hbroken
  refine ⟨hle, ?_⟩
  unfold pace
  simp only [Clock.startingAt, Instant.lt_def, Instant.millis_plus] at hend ⊢
  omega

/-! ## Runs that do not break off -/

/-- The window of the user holds the queue, and all of it can be counted. -/
structure Queue.Countable (q : Queue) : Prop where
  fits : q.Fits
  total_lt : q.user.total < 0x10000000000000000

/-- What a tick hands over of a countable queue is recorded, and the rest is countable. -/
theorem Queue.Countable.recordSent {q : Queue} (h : q.Countable) (now : Instant) :
    ∃ user, q.user.recordSent (q.events.takeWhile (·.time < now)).length = .ok user ∧
      Queue.Countable ⟨user, q.events.dropWhile (·.time < now)⟩ := by
  have hlength := congrArg List.length (List.takeWhile_append_dropWhile
    (p := fun e : Event => decide (e.time < now)) (l := q.events))
  have hfits := h.fits
  have htotal := h.total_lt
  unfold Queue.Fits at hfits
  rw [List.length_append] at hlength
  refine ⟨_, User.recordSent_eq_ok_iff.2 ⟨by omega, by omega, rfl⟩, ?_, htotal⟩
  unfold Queue.Fits
  simp only
  omega

/-- A tick breaks off only where the sink does or a count leaves its range. -/
theorem serve_unbroken (hsink : ∀ b, sink.crash? b = none) (now : Instant) (queues : List Queue)
    (elapsed : Nat) (h : ∀ q ∈ queues, q.Countable) :
    (serve sink clock now queues elapsed).broken = none ∧
      ∀ q ∈ (serve sink clock now queues elapsed).queues, q.Countable := by
  induction queues generalizing elapsed with
  | nil => exact ⟨rfl, h⟩
  | cons q rest ih =>
    obtain ⟨hq, hrest⟩ := List.forall_mem_cons.1 h
    obtain ⟨user, hrecord, hleft⟩ := hq.recordSent now
    unfold serve
    simp only [hsink, hrecord]
    split
    · exact ⟨(ih elapsed hrest).1, List.forall_mem_cons.2 ⟨hq, (ih elapsed hrest).2⟩⟩
    · exact ⟨(ih _ hrest).1, List.forall_mem_cons.2 ⟨hleft, (ih _ hrest).2⟩⟩

/-- **A run breaks off only where its sink does or a count leaves its range.** -/
theorem pace_unbroken (hsink : ∀ b, sink.crash? b = none) (h : ∀ q ∈ queues, q.Countable) :
    (pace sink clock interval grace finish queues elapsed).broken = none := by
  unfold pace
  suffices hrun : ∀ r : Run, r.broken = none → (∀ q ∈ r.queues, q.Countable) →
      (Run.toDeadline sink clock interval (finish.plus grace) r).broken = none from hrun _ rfl h
  intro r hbroken hqueues
  fun_induction Run.toDeadline sink clock interval (finish.plus grace) r with
  | case1 r _ next hnext ih =>
    exact ih hnext (serve_unbroken hsink (clock.read r.elapsed) r.queues r.elapsed hqueues).2
  | case2 r _ next hnext =>
    exact absurd (serve_unbroken hsink (clock.read r.elapsed) r.queues r.elapsed hqueues).1 hnext
  | case3 r _ => exact hbroken

/-- Where deliveries take no time a tick takes none. -/
theorem serve_elapsed (hlatency : ∀ b, sink.latency b = 0) (now : Instant) (queues : List Queue)
    (elapsed : Nat) : (serve sink clock now queues elapsed).elapsed = elapsed := by
  induction queues generalizing elapsed with
  | nil => rfl
  | cons q rest ih =>
    unfold serve
    simp only [hlatency, Nat.add_zero]
    split
    · exact ih elapsed
    · split
      · rfl
      · split
        · rfl
        · exact ih elapsed

/-- Where deliveries take no time a run ends within one interval of a tick before its horizon, if not
where it begins. -/
theorem pace_elapsed_le (hlatency : ∀ b, sink.latency b = 0) :
    (pace sink clock interval grace finish queues elapsed).elapsed ≤
      max elapsed (clock.horizon (finish.plus grace) + interval.millis - 1) := by
  unfold pace
  suffices hrun : ∀ r : Run, (Run.toDeadline sink clock interval (finish.plus grace) r).elapsed ≤
      max r.elapsed (clock.horizon (finish.plus grace) + interval.millis - 1) from hrun _
  intro r
  have hstep : ∀ r : Run, (r.step sink clock interval).elapsed ≤ r.elapsed + interval.millis := by
    intro r
    have hrest := restOf_le (r.elapsed + interval.millis - r.elapsed)
    simp only [Run.step, serve_elapsed hlatency]
    split <;> omega
  fun_induction Run.toDeadline sink clock interval (finish.plus grace) r with
  | case1 r hgoes next _ ih =>
    have hnext : next.elapsed ≤ r.elapsed + interval.millis := hstep r
    omega
  | case2 r hgoes next _ =>
    have hnext : next.elapsed ≤ r.elapsed + interval.millis := hstep r
    omega
  | case3 r _ => exact Nat.le_max_left _ _

/-! ## Runs that hand nothing over -/

/-- A tick at which nothing is due does nothing. -/
theorem serve_idle {now : Instant} (h : ∀ q ∈ queues, ∀ e ∈ q.events, ¬ e.time < now) :
    serve sink clock now queues elapsed = { queues, batches := [], elapsed } := by
  induction queues with
  | nil => rfl
  | cons q rest ih =>
    obtain ⟨hq, hrest⟩ := List.forall_mem_cons.1 h
    have hnone : q.events.takeWhile (·.time < now) = [] := by
      cases hevents : q.events with
      | nil => rfl
      | cons e es =>
        have hlate : ¬ e.time < now := hq e (hevents ▸ List.mem_cons_self)
        exact List.takeWhile_cons_of_neg (by simpa using hlate)
    unfold serve
    rw [hnone, ih hrest]
    rfl

/-- A run hands nothing over if nothing is due at its first tick and its second one would be late. -/
theorem pace_idle (h : ∀ q ∈ queues, ∀ e ∈ q.events, ¬ e.time < clock.read elapsed)
    (hlate : finish.plus grace < clock.read (elapsed + restOf interval.millis)) :
    (pace sink clock interval grace finish queues elapsed).batches = #[] ∧
      (pace sink clock interval grace finish queues elapsed).broken = none := by
  unfold pace
  rw [Run.toDeadline]
  split
  · have hstep : Run.step { queues, elapsed } sink clock interval =
        { queues, elapsed := elapsed + restOf interval.millis, ticks := #[elapsed] } := by
      unfold Run.step
      rw [serve_idle h]
      simp
    have hover : ¬ (clock.read (elapsed + restOf interval.millis) ≤ finish.plus grace) := by
      rw [Instant.le_def]
      rw [Instant.lt_def] at hlate
      omega
    rw [hstep, dif_pos rfl, Run.toDeadline, if_neg fun hgoes => hover hgoes.2]
    exact ⟨rfl, rfl⟩
  · exact ⟨rfl, rfl⟩

theorem serve_batches_of_crashing (hsink : ∀ b, (sink.crash? b).isSome) (now : Instant)
    (h : (serve sink clock now queues elapsed).broken = none) :
    (serve sink clock now queues elapsed).batches = [] := by
  induction queues generalizing elapsed with
  | nil => rfl
  | cons q rest ih =>
    unfold serve at h ⊢
    simp only at h ⊢
    split
    · rename_i hdue
      rw [if_pos hdue] at h
      exact ih h
    · rename_i hdue
      rw [if_neg hdue] at h
      split at h
      · cases h
      · rename_i hnone
        have hsome := hsink ⟨some q.user, q.events.takeWhile (·.time < now), now, elapsed,
          clock.read elapsed⟩
        rw [hnone] at hsome
        cases hsome

/-- A run hands nothing over to a sink that always crashes, unless it breaks off. -/
theorem pace_batches_of_crashing (hsink : ∀ b, (sink.crash? b).isSome)
    (h : (pace sink clock interval grace finish queues elapsed).broken = none) :
    (pace sink clock interval grace finish queues elapsed).batches = #[] := by
  unfold pace at h ⊢
  suffices hrun : ∀ r : Run, r.batches = #[] →
      (Run.toDeadline sink clock interval (finish.plus grace) r).broken = none →
      (Run.toDeadline sink clock interval (finish.plus grace) r).batches = #[] from hrun _ rfl h
  intro r hbatches hbroken
  fun_induction Run.toDeadline sink clock interval (finish.plus grace) r with
  | case1 r _ next hnext ih =>
    refine ih ?_ hbroken
    simp only [next, Run.step, hbatches]
    rw [serve_batches_of_crashing hsink _ hnext]
    rfl
  | case2 r _ next hnext => exact absurd hbroken hnext
  | case3 r _ => exact hbatches

/-- A run that broke off handed something over. -/
theorem pace_batches_ne_nil
    (h : (pace sink clock interval grace finish queues elapsed).broken.isSome) :
    (pace sink clock interval grace finish queues elapsed).batches.toList ≠ [] := by
  unfold pace at h ⊢
  suffices hrun : ∀ r : Run, r.broken = none →
      (Run.toDeadline sink clock interval (finish.plus grace) r).broken.isSome →
      (Run.toDeadline sink clock interval (finish.plus grace) r).batches.toList ≠ [] from
    hrun _ rfl h
  intro r hbroken hsome
  fun_induction Run.toDeadline sink clock interval (finish.plus grace) r with
  | case1 r _ next hnext ih => exact ih hnext hsome
  | case2 r _ next hnext =>
    simp only [next, Run.step, Array.toList_appendList]
    exact List.append_ne_nil_of_right_ne_nil _ (serve_batches_ne_nil hsome)
  | case3 r _ =>
    rw [hbroken] at hsome
    cases hsome

end ShopTraffic
