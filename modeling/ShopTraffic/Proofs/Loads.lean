import Mathlib
import ShopTraffic.Proofs.Deadlines

/-!
# Ticks under load

A tick lasts as long as its deliveries, and then the run rests for what is left of the interval.
Where the deliveries of a tick take longer than the interval the next tick follows without a rest. So
a run comes past its deadline whatever its deliveries take, and it is late by no more than its last
tick and the rest after it.

* `serve_load` — a tick lasts as long as its deliveries together;
* `Interval.gap` — how far a tick is from the next one, `gap_eq_max` — where no rest is cut short;
* `Run.Reaches`, `toDeadline_reaches` — the states that a run comes to; `Reaches.preserves` — what
  every tick preserves holds in all of them;
* `Run.load` — how long the deliveries of a tick take; `Run.Ticked`, `Ticked.step` — the ticks of a
  run so far, and one tick more;
* `Run.UnderLoad`, `pace_underLoad` — every run that does not break off; `pace_cutShort` — runs for
  which the interval and the deliveries alone do not tell the gap.
-/

set_option autoImplicit false

namespace ShopTraffic

/-! ## One tick -/

/-- A tick lasts as long as its deliveries together. -/
theorem serve_load (sink : Sink) (clock : Clock) (now : Instant) (queues : List Queue)
    (elapsed : Nat) : (serve sink clock now queues elapsed).elapsed =
      elapsed + totalOf sink.latency (serve sink clock now queues elapsed).batches := by
  induction queues generalizing elapsed with
  | nil => rfl
  | cons q rest ih =>
    unfold serve
    simp only
    split
    · exact ih elapsed
    · split
      · rfl
      · split
        · rfl
        · simp only [ih, totalOf_cons, Nat.add_assoc]

namespace Interval

/-- How far a tick is from the next one when its deliveries take `load`: as far as the interval
says, but no further than the longest rest after the deliveries, and no less than they take. -/
def gap (i : Interval) (load : Nat) : Nat := max load (min i.millis (load + longestRest))

variable (i : Interval) (load : Nat)

theorem gap_eq : i.gap load = load + restOf (i.millis - load) := by
  unfold gap restOf
  omega

/-- Where no rest is cut short the next tick comes after the interval or the deliveries, whichever
take longer. -/
theorem gap_eq_max {i : Interval} (h : i.millis ≤ longestRest) : i.gap = max i.millis := by
  funext load
  unfold gap
  omega

theorem restOf_le_gap : restOf i.millis ≤ i.gap load := by
  unfold gap restOf
  omega

end Interval

/-- A clock that keeps time shows every moment a reading of its own, as long as it can show it. -/
theorem Clock.startingAt_ne {origin : Instant} {m n : Nat} (hmn : m < n)
    (hn : origin.millis + n < 0x10000000000000000) :
    (startingAt origin).read m ≠ (startingAt origin).read n := by
  intro heq
  have hmillis := congrArg Instant.millis heq
  simp only [startingAt, Instant.millis_plus] at hmillis
  omega

namespace Run

variable {sink : Sink} {clock : Clock} {interval : Interval} {deadline : Instant}

/-- The next tick begins when the gap after this one is over. -/
theorem elapsed_step {r : Run} (h : (r.step sink clock interval).broken = none) :
    (r.step sink clock interval).elapsed =
      r.elapsed + interval.gap (totalOf sink.latency (r.tick sink clock).batches) := by
  have hload : (r.tick sink clock).elapsed =
      r.elapsed + totalOf sink.latency (r.tick sink clock).batches := serve_load _ _ _ _ _
  have hbroken : (r.tick sink clock).broken = none := h
  have helapsed : (r.step sink clock interval).elapsed = (r.tick sink clock).elapsed +
      restOf (r.elapsed + interval.millis - (r.tick sink clock).elapsed) := by
    show (if (r.tick sink clock).broken.isSome then _ else _) = _
    rw [hbroken]
    rfl
  rw [helapsed, hload, Interval.gap_eq, Nat.add_sub_add_left, Nat.add_assoc]

/-! ## The states of a run -/

/-- The states that a run comes to from a state on, one tick after the other. A run that broke off
makes no tick more, and no tick begins past the deadline. -/
inductive Reaches (sink : Sink) (clock : Clock) (interval : Interval) (deadline : Instant) :
    Run → Run → Prop
  | refl (r : Run) : Reaches sink clock interval deadline r r
  | tick {r r' : Run} : r.broken = none → clock.read r.elapsed ≤ deadline →
    Reaches sink clock interval deadline (r.step sink clock interval) r' →
    Reaches sink clock interval deadline r r'

/-- What every tick preserves holds in all states that a run comes to. -/
theorem Reaches.preserves {P : Run → Prop}
    (hstep : ∀ r : Run, r.broken = none → clock.read r.elapsed ≤ deadline → P r →
      P (r.step sink clock interval))
    {r r' : Run} (h : Reaches sink clock interval deadline r r') (hr : P r) : P r' := by
  induction h with
  | refl r => exact hr
  | tick hunbroken hread _ ih => exact ih (hstep _ hunbroken hread hr)

/-- A run comes to its end. -/
theorem toDeadline_reaches (sink : Sink) (clock : Clock) (interval : Interval) (deadline : Instant)
    {r : Run} (h : r.broken = none) :
    Reaches sink clock interval deadline r (toDeadline sink clock interval deadline r) := by
  fun_induction toDeadline sink clock interval deadline r with
  | case1 r hgoes next hnext ih => exact .tick h hgoes.2 (ih hnext)
  | case2 r hgoes next hnext => exact .tick h hgoes.2 (.refl _)
  | case3 r hover => exact .refl r

/-! ## The ticks of a run -/

/-- The deliveries of the tick at a moment. -/
def deliveriesAt (r : Run) (clock : Clock) (t : Nat) : List Batch :=
  r.batches.toList.filter (·.cut = clock.read t)

/-- How long the deliveries of the tick at a moment take together. -/
def load (r : Run) (sink : Sink) (clock : Clock) (t : Nat) : Nat :=
  totalOf sink.latency (r.deliveriesAt clock t)

/-- The ticks of a run so far, from a moment on. -/
structure Ticked (r : Run) (sink : Sink) (clock : Clock) (interval : Interval) (start : Nat)
    (deadline : Instant) : Prop where
  idle : r.ticks.toList = [] → r.elapsed = start
  first : ∀ t ∈ r.ticks.toList.head?, t = start
  gaps : r.ticks.toList.IsChain fun t later => later = t + interval.gap (r.load sink clock t)
  last : ∀ t ∈ r.ticks.toList.getLast?, r.elapsed = t + interval.gap (r.load sink clock t)
  sorted : (r.ticks.toList ++ [r.elapsed]).Pairwise (· < ·)
  within : ∀ t ∈ r.ticks.toList, clock.read t ≤ deadline
  cuts : ∀ b ∈ r.batches.toList, ∃ t ∈ r.ticks.toList, b.cut = clock.read t
  /-- Ticks are never closer to each other than the interval or the longest rest. -/
  spread : ∀ t ∈ r.ticks.toList.getLast?,
    start + (r.ticks.toList.length - 1) * restOf interval.millis ≤ t

/-- Before its first tick nothing is known of a run but where it begins. -/
theorem ticked_start (sink : Sink) (clock : Clock) (interval : Interval) (queues : List Queue)
    (start : Nat) (deadline : Instant) :
    Ticked { queues, elapsed := start } sink clock interval start deadline := by
  constructor <;> simp

/-- A tick with a reading of its own adds its own deliveries and leaves those of the ticks before as
they are. -/
theorem load_step (sink : Sink) (interval : Interval) {r : Run}
    (hcuts : ∀ b ∈ r.batches.toList, ∃ t ∈ r.ticks.toList, b.cut = clock.read t)
    (hnew : ∀ t ∈ r.ticks.toList, clock.read t ≠ clock.read r.elapsed) :
    (∀ t ∈ r.ticks.toList,
      (r.step sink clock interval).load sink clock t = r.load sink clock t) ∧
    (r.step sink clock interval).load sink clock r.elapsed =
      totalOf sink.latency (r.tick sink clock).batches := by
  have hcut : ∀ b ∈ (r.tick sink clock).batches, b.cut = clock.read r.elapsed := fun b hb =>
    serve_cut hb
  unfold load deliveriesAt
  simp only [batches_step, List.filter_append]
  constructor
  · intro t ht
    have hnone : (r.tick sink clock).batches.filter (·.cut = clock.read t) = [] := by
      refine List.filter_eq_nil_iff.2 fun b hb => ?_
      rw [decide_eq_true_eq, hcut b hb]
      exact (hnew t ht).symm
    rw [hnone, List.append_nil]
  · have hnone : r.batches.toList.filter (·.cut = clock.read r.elapsed) = [] := by
      refine List.filter_eq_nil_iff.2 fun b hb => ?_
      obtain ⟨t, ht, heq⟩ := hcuts b hb
      rw [decide_eq_true_eq, heq]
      exact hnew t ht
    have hall := List.filter_eq_self.2 fun b hb => decide_eq_true (hcut b hb)
    rw [hnone, List.nil_append, hall]

namespace Ticked

variable {origin : Instant} {start : Nat} {r : Run}

/-- All ticks begin before the run goes on. -/
theorem lt_elapsed (h : r.Ticked sink clock interval start deadline) :
    ∀ t ∈ r.ticks.toList, t < r.elapsed := fun t ht =>
  (List.pairwise_append.1 h.sorted).2.2 t ht _ (List.mem_singleton_self _)

/-- The last tick is the latest one. -/
theorem le_last (h : r.Ticked sink clock interval start deadline) {last : Nat}
    (hlast : last ∈ r.ticks.toList.getLast?) : ∀ t ∈ r.ticks.toList, t ≤ last := by
  have hsorted := (List.pairwise_append.1 h.sorted).1
  obtain ⟨init, hticks⟩ := List.getLast?_eq_some_iff.1 hlast
  rw [hticks, List.pairwise_append] at hsorted
  rw [hticks]
  intro t ht
  rcases List.mem_append.1 ht with ht | ht
  · exact Nat.le_of_lt (hsorted.2.2 t ht last (List.mem_singleton_self _))
  · exact Nat.le_of_eq (List.mem_singleton.1 ht)

/-- The run goes on no earlier than its ticks have to be apart. -/
theorem le_elapsed (h : r.Ticked sink clock interval start deadline) :
    start + r.ticks.toList.length * restOf interval.millis ≤ r.elapsed := by
  cases hlast : r.ticks.toList.getLast? with
  | none =>
    have hnone := List.getLast?_eq_none_iff.1 hlast
    rw [hnone, List.length_nil, Nat.zero_mul, h.idle hnone]
    exact Nat.le_refl _
  | some t =>
    have hspread := h.spread t hlast
    have hgap := interval.restOf_le_gap (r.load sink clock t)
    obtain ⟨init, hticks⟩ := List.getLast?_eq_some_iff.1 hlast
    rw [h.last t hlast]
    rw [hticks, List.length_append, List.length_singleton] at hspread ⊢
    rw [Nat.add_sub_cancel] at hspread
    rw [Nat.succ_mul]
    omega

/-- Before the last instant the clock shows every tick another reading. -/
theorem reading_ne (h : r.Ticked sink (.startingAt origin) interval start deadline)
    (hlast : deadline.millis < 0xFFFFFFFFFFFFFFFF)
    (hread : (Clock.startingAt origin).read r.elapsed ≤ deadline) : ∀ t ∈ r.ticks.toList,
      (Clock.startingAt origin).read t ≠ (Clock.startingAt origin).read r.elapsed := by
  have hcounted : origin.millis + r.elapsed < 0x10000000000000000 := by
    simp only [Clock.startingAt, Instant.le_def, Instant.millis_plus] at hread
    omega
  exact fun t ht => Clock.startingAt_ne (h.lt_elapsed t ht) hcounted

/-- **One tick more.** -/
theorem step (h : r.Ticked sink (.startingAt origin) interval start deadline)
    (hlast : deadline.millis < 0xFFFFFFFFFFFFFFFF)
    (hread : (Clock.startingAt origin).read r.elapsed ≤ deadline)
    (hnext : (r.step sink (.startingAt origin) interval).broken = none) :
    (r.step sink (.startingAt origin) interval).Ticked sink (.startingAt origin) interval start
      deadline := by
  obtain ⟨hold, hown⟩ := load_step sink interval h.cuts (h.reading_ne hlast hread)
  have hlt := lt_elapsed_step r sink (.startingAt origin) interval hnext
  constructor
  case idle => simp [ticks_step]
  case first =>
    rw [ticks_step, List.head?_append]
    cases hhead : r.ticks.toList.head? with
    | none =>
      have hidle := h.idle (List.head?_eq_none_iff.1 hhead)
      simpa using hidle
    | some t =>
      have hfirst := h.first t hhead
      simpa using hfirst
  case gaps =>
    rw [ticks_step, List.isChain_append]
    refine ⟨h.gaps.imp_of_mem_imp fun t later ht _ hgap => ?_, List.isChain_singleton _, ?_⟩
    · rw [hold t ht]
      exact hgap
    · intro t ht later hlater
      cases hlater
      rw [hold t (List.mem_of_getLast? ht)]
      exact h.last t ht
  case last =>
    intro t ht
    rw [ticks_step, List.getLast?_concat] at ht
    cases ht
    rw [hown]
    exact elapsed_step hnext
  case sorted =>
    rw [ticks_step, List.pairwise_append]
    refine ⟨h.sorted, List.pairwise_singleton _ _, fun t ht later hlater => ?_⟩
    rw [List.mem_singleton.1 hlater]
    rcases List.mem_append.1 ht with ht | ht
    · exact (h.lt_elapsed t ht).trans hlt
    · rw [List.mem_singleton.1 ht]
      exact hlt
  case within =>
    rw [ticks_step]
    exact List.forall_mem_append.2 ⟨h.within, List.forall_mem_singleton.2 hread⟩
  case cuts =>
    intro b hb
    rw [batches_step] at hb
    rw [ticks_step]
    rcases List.mem_append.1 hb with hb | hb
    · obtain ⟨t, ht, hcut⟩ := h.cuts b hb
      exact ⟨t, List.mem_append_left _ ht, hcut⟩
    · exact ⟨r.elapsed, List.mem_append_right _ (List.mem_singleton_self _), serve_cut hb⟩
  case spread =>
    intro t ht
    rw [ticks_step, List.getLast?_concat] at ht
    cases ht
    rw [ticks_step, List.length_append, List.length_singleton, Nat.add_sub_cancel]
    exact h.le_elapsed

end Ticked

/-- The ticks of a run that does not break off. -/
theorem ticked_toDeadline {origin : Instant} {start : Nat} {queues : List Queue}
    (hlast : deadline.millis < 0xFFFFFFFFFFFFFFFF)
    (hunbroken : (toDeadline sink (.startingAt origin) interval deadline
      { queues, elapsed := start }).broken = none) :
    (toDeadline sink (.startingAt origin) interval deadline { queues, elapsed := start }).Ticked sink
      (.startingAt origin) interval start deadline := by
  have hreaches := toDeadline_reaches sink (.startingAt origin) interval deadline
    (r := { queues, elapsed := start }) rfl
  -- A tick that breaks off ends the run before the gap is over, so only the others are followed.
  have hticked := hreaches.preserves
    (P := fun r => r.broken = none → r.Ticked sink (.startingAt origin) interval start deadline)
    (fun r hunbroken hread h hnext => (h hunbroken).step hlast hread hnext)
    fun _ => ticked_start sink (.startingAt origin) interval queues start deadline
  exact hticked hunbroken

/-- How a run over some queues from a moment on goes, when a tick is `gap` away from the next one,
given how long its deliveries take, and never less than `least`. -/
structure UnderLoad (r : Run) (sink : Sink) (origin : Instant) (gap : Nat → Nat) (least : Nat)
    (queues : List Queue) (start deadline : Nat) : Prop where
  unbroken : r.broken = none
  /-- The run ends, and the clock is past the deadline then. -/
  past : deadline < ((Clock.startingAt origin).read r.elapsed).millis
  first : r.ticks.toList.head? = if origin.millis + start ≤ deadline then some start else none
  gaps : r.ticks.toList.IsChain fun t later =>
    later = t + gap (r.load sink (.startingAt origin) t)
  count : origin.millis + start ≤ deadline →
    1 ≤ r.ticks.size ∧ r.ticks.size ≤ (deadline - (origin.millis + start)) / least + 1
  /-- What was due at the last tick, and nothing else, is handed over. -/
  handed : ∀ t ∈ r.ticks.toList.getLast?, (r.batches.toList.flatMap (·.events)).Perm
    ((queuedEvents queues).filter (·.time < (Clock.startingAt origin).read t))
  /-- The run ends where its next tick would begin, that far past the deadline at most. -/
  last : ∀ t ∈ r.ticks.toList.getLast?,
    r.elapsed = t + gap (r.load sink (.startingAt origin) t) ∧
      origin.millis + r.elapsed ≤ deadline + gap (r.load sink (.startingAt origin) t)

end Run

section Pace

variable {sink : Sink} {interval : Interval} {origin finish : Instant} {grace start : Nat}
  {queues : List Queue}

/-- A run that does not break off hands over what is before the reading of its last tick. -/
theorem pace_handed (hordered : ∀ q ∈ queues, TimeOrdered q.events) {clock : Clock}
    (hunbroken : (pace sink clock interval grace finish queues start).broken = none) {t : Nat}
    (ht : t ∈ (pace sink clock interval grace finish queues start).ticks.toList)
    (hlatest : ∀ t' ∈ (pace sink clock interval grace finish queues start).ticks.toList,
      clock.read t' ≤ clock.read t) :
    ((pace sink clock interval grace finish queues start).batches.toList.flatMap (·.events)).Perm
      ((queuedEvents queues).filter (·.time < clock.read t)) := by
  have hevents := (pace_paced sink clock interval grace finish queues start).events
  have hdue : ∀ e ∈ (pace sink clock interval grace finish queues start).batches.toList.flatMap
      (·.events), e.time < clock.read t := by
    intro e he
    obtain ⟨b, hb, he⟩ := List.mem_flatMap.1 he
    obtain ⟨hdue, t', ht', hcut, -⟩ := Run.delivered_toDeadline hb
    exact Instant.lt_of_lt_of_le (hcut ▸ hdue e he) (hlatest t' ht')
  have hleft : ∀ e ∈ queuedEvents (pace sink clock interval grace finish queues start).queues,
      ¬ e.time < clock.read t := by
    intro e he
    obtain ⟨q, hq, he⟩ := List.mem_flatMap.1 he
    have hkept := Run.left_toDeadline { queues, elapsed := start } hordered
      (fun _ _ _ _ _ ht => absurd ht List.not_mem_nil) hunbroken q hq e he t ht
    exact Nat.not_lt.2 hkept
  generalize pace sink clock interval grace finish queues start = r at *
  have hbatches : r.attempts.flatMap (·.batch.events) = r.batches.toList.flatMap (·.events) := by
    rw [← r.batch_attempts, List.flatMap_map]
  rw [hbatches] at hevents
  refine Multiset.coe_eq_coe.1 ?_
  rw [← Multiset.filter_coe, ← hevents, Multiset.filter_add, Multiset.filter_coe,
    Multiset.filter_coe, List.filter_eq_self.2 fun e he => decide_eq_true (hdue e he),
    List.filter_eq_nil_iff.2 fun e he => by simpa using hleft e he]
  simp

/-- **Every run under load**: with queues in order whose users' windows hold them, a sink that does
not break off and a deadline before the last instant, whatever its deliveries take, a run makes its
first tick where it begins, each tick is the gap after its deliveries away from the next one, and
the run ends past the deadline, when the gap after its last tick is over. By then it has handed over
what was due at the last tick. -/
theorem pace_underLoad (hcrash : ∀ b, sink.crash? b = none)
    (hordered : ∀ q ∈ queues, TimeOrdered q.events) (hcountable : ∀ q ∈ queues, q.Countable)
    (interval : Interval) (origin : Instant) (start grace : Nat) {finish : Instant}
    (hlast : finish.millis + grace < 0xFFFFFFFFFFFFFFFF) :
    (pace sink (.startingAt origin) interval grace finish queues start).UnderLoad sink origin
      interval.gap (restOf interval.millis) queues start (finish.millis + grace) := by
  have hdeadline : (finish.plus grace).millis = finish.millis + grace := by
    rw [Instant.millis_plus]
    omega
  have hunbroken : (pace sink (.startingAt origin) interval grace finish queues start).broken = none :=
    pace_unbroken hcrash hcountable
  obtain ⟨-, hpast⟩ := pace_past_deadline hlast hunbroken
  have hticked : (pace sink (.startingAt origin) interval grace finish queues start).Ticked sink
      (.startingAt origin) interval start (finish.plus grace) :=
    Run.ticked_toDeadline (hdeadline ▸ hlast) hunbroken
  have hhanded := fun t ht => pace_handed (t := t) hordered hunbroken ht
  generalize pace sink (.startingAt origin) interval grace finish queues start = r at *
  have hwithin : ∀ t ∈ r.ticks.toList, origin.millis + t ≤ finish.millis + grace := by
    intro t ht
    have hread := hticked.within t ht
    simp only [Clock.startingAt, Instant.le_def, Instant.millis_plus] at hread
    omega
  have hfirst : r.ticks.toList.head? =
      if origin.millis + start ≤ finish.millis + grace then some start else none := by
    cases hhead : r.ticks.toList.head? with
    | none =>
      have hidle := hticked.idle (List.head?_eq_none_iff.1 hhead)
      rw [hidle, Instant.millis_plus] at hpast
      rw [if_neg (by omega)]
    | some t =>
      obtain rfl : t = start := hticked.first t hhead
      rw [if_pos (hwithin t (List.mem_of_head? hhead))]
  constructor
  case unbroken => exact hunbroken
  case past => exact hpast
  case first => exact hfirst
  case gaps => exact hticked.gaps
  case count =>
    intro hbegins
    rw [if_pos hbegins] at hfirst
    have hpos : 0 < r.ticks.toList.length := List.length_pos_of_mem (List.mem_of_head? hfirst)
    have hend := List.getLast?_eq_some_getLast (List.ne_nil_of_length_pos hpos)
    have hspread := hticked.spread _ hend
    have hle := hwithin _ (List.mem_of_getLast? hend)
    have hroom : (r.ticks.toList.length - 1) * restOf interval.millis ≤
        finish.millis + grace - (origin.millis + start) := by
      omega
    have hcount := (Nat.le_div_iff_mul_le (restOf_pos interval.positive)).2 hroom
    rw [Array.length_toList] at hpos hcount
    omega
  case handed =>
    intro t ht
    refine hhanded t (List.mem_of_getLast? ht) fun t' ht' => ?_
    exact Clock.startingAt_forward origin _ _ (hticked.le_last ht t' ht')
  case last =>
    intro t ht
    have hend := hticked.last t ht
    have hle := hwithin t (List.mem_of_getLast? ht)
    exact ⟨hend, by omega⟩

end Pace

/-- Two deliveries of a tenth of a second hold the second tick up; where no rest is cut short the
gap is the interval or the deliveries, whichever take longer. -/
theorem pace_underLoad_two :
    (pace .slow (.startingAt ⟨10, by decide⟩) { millis := 20 } 0 ⟨250, by decide⟩ Queue.two
      0).UnderLoad .slow ⟨10, by decide⟩ (max 20) 20 Queue.two 0 250 := by
  have hgap : ({ millis := 20 } : Interval).gap = max 20 := Interval.gap_eq_max (by decide)
  have hleast : restOf 20 = 20 := restOf_eq (by decide)
  have hunder : (pace .slow (.startingAt ⟨10, by decide⟩) { millis := 20 } 0 ⟨250, by decide⟩
      Queue.two 0).UnderLoad .slow ⟨10, by decide⟩ (Interval.gap { millis := 20 }) (restOf 20)
      Queue.two 0 250 := by
    refine pace_underLoad (fun _ => rfl) ?_ ?_ _ _ 0 0 (by decide)
    · simp [Queue.two, Queue.ofTimes, TimeOrdered]
    · intro q hq
      rcases List.mem_cons.1 hq with rfl | hq
      · exact Queue.countable_ofTimes (by decide)
      · rw [List.mem_singleton.1 hq]
        exact Queue.countable_ofTimes (by decide)
  rw [hgap, hleast] at hunder
  exact hunder

/-- **Where the interval and the deliveries alone do not tell the gap**: an interval longer than the
longest rest, a user whose window does not hold the queue, a sink that breaks off. -/
theorem pace_cutShort :
    ¬ (pace .accepting (.startingAt .zero) { millis := 1000000000000 } 0
        ⟨2000000000000, by decide⟩ Queue.apart 0).UnderLoad .accepting .zero (max 1000000000000)
        1000000000000 Queue.apart 0 2000000000000 ∧
      ¬ (pace .accepting (.startingAt ⟨10, by decide⟩) { millis := 20 } 0 ⟨50, by decide⟩
        [{ Queue.ofTimes 1 [] with events := [⟨"page_view", ⟨5, by decide⟩, []⟩] }] 0).UnderLoad
        .accepting ⟨10, by decide⟩ (max 20) 20
        [{ Queue.ofTimes 1 [] with events := [⟨"page_view", ⟨5, by decide⟩, []⟩] }] 0 50 ∧
      ¬ (pace { crash? := fun _ => some .addOverflow } (.startingAt ⟨10, by decide⟩)
        { millis := 20 } 0 ⟨50, by decide⟩ [.ofTimes 1 [⟨5, by decide⟩]] 0).UnderLoad
        { crash? := fun _ => some .addOverflow } ⟨10, by decide⟩ (max 20) 20
        [.ofTimes 1 [⟨5, by decide⟩]] 0 50 := by
  refine ⟨fun h => ?_, fun h => ?_, fun h => ?_⟩
  · have hgaps := h.gaps
    rw [ticks_apart, List.isChain_cons_cons] at hgaps
    omega
  · have hunbroken := h.unbroken
    unfold pace at hunbroken
    rw [Run.toDeadline_of_broken (by decide) (by decide)] at hunbroken
    revert hunbroken
    decide
  · have hunbroken := h.unbroken
    unfold pace at hunbroken
    rw [Run.toDeadline_of_broken (by decide) (by decide)] at hunbroken
    revert hunbroken
    decide

end ShopTraffic
