import Mathlib
import ShopTraffic.Proofs.PacedQueues
import ShopTraffic.Proofs.Schedule

/-!
# Runs and their deadline

A run asks whether the deadline has passed when a tick begins, and then hands over all that the tick
finds due, one queue after the other. Where deliveries take time the clock may pass the deadline in
the middle of the last tick, and the batches of the queues behind are handed over all the same.

* `Run.tick`, `batches_toDeadline` — the batches of a run are those of its ticks;
  `of_mem_beginnings`, `beginnings_pairwise` — when the ticks begin;
* `serve_delay`, `Served.owners`, `Served.left` — how late a batch of a tick is, for whom there is
  one, and what the tick leaves;
* `Run.late`, `Run.HeldTo` — the batches past the deadline, and all that can be said of them;
  `delivered_toDeadline`, `behind_toDeadline`, `late_last`, `late_owners` — each part of it;
* `pace_heldTo` — every run; `HeldTo.late_eq_nil` — none is late where deliveries take no time;
  `pace_late` — a run with a batch past its deadline.
-/

set_option autoImplicit false

namespace ShopTraffic

/-- A clock that does not go back. -/
def Clock.Forward (c : Clock) : Prop := ∀ m n, m ≤ n → (c.read m).millis ≤ (c.read n).millis

theorem Clock.startingAt_forward (origin : Instant) : (Clock.startingAt origin).Forward := by
  intro m n hle
  unfold Clock.startingAt
  simp only [Instant.millis_plus]
  omega

/-! ## One tick -/

theorem batch_attemptsOf (batches : List Batch) (broken : Option Breakdown) :
    (attemptsOf batches broken).map (·.batch) = batches := by
  cases broken with
  | none => simp [attemptsOf, Function.comp_def]
  | some breakdown =>
    rcases List.eq_nil_or_concat batches with rfl | ⟨init, last, rfl⟩ <;>
      simp [attemptsOf, Function.comp_def]

/-- A batch waits for the deliveries of the queues before its own. -/
theorem serve_delay (sink : Sink) (clock : Clock) (now : Instant) (queues : List Queue)
    (elapsed : Nat) : ∀ b ∈ (serve sink clock now queues elapsed).batches,
      b.moment = clock.read b.elapsed ∧ ∀ longest, (∀ c, sink.latency c ≤ longest) →
        b.elapsed + longest ≤ elapsed + queues.length * longest := by
  induction queues generalizing elapsed with
  | nil => exact fun _ h => absurd h List.not_mem_nil
  | cons q rest ih =>
    have hlength : ∀ longest, (q :: rest).length * longest = rest.length * longest + longest :=
      fun longest => Nat.succ_mul rest.length longest
    unfold serve
    simp only
    split
    · intro b hb
      refine ⟨(ih elapsed b hb).1, fun longest hlatency => ?_⟩
      have := (ih elapsed b hb).2 longest hlatency
      rw [hlength]
      omega
    · generalize hbatch : Batch.mk _ _ _ _ _ = own
      have hown : own.moment = clock.read own.elapsed ∧ own.elapsed = elapsed := by
        rw [← hbatch]
        exact ⟨rfl, rfl⟩
      have hfirst : own.moment = clock.read own.elapsed ∧ ∀ longest,
          (∀ c, sink.latency c ≤ longest) →
            own.elapsed + longest ≤ elapsed + (q :: rest).length * longest := by
        refine ⟨hown.1, fun longest _ => ?_⟩
        rw [hown.2, hlength]
        omega
      split
      · exact List.forall_mem_singleton.2 hfirst
      · split
        · exact List.forall_mem_singleton.2 hfirst
        · refine List.forall_mem_cons.2 ⟨hfirst, fun b hb => ?_⟩
          refine ⟨(ih _ b hb).1, fun longest hlatency => ?_⟩
          have hlater := (ih _ b hb).2 longest hlatency
          have hlatency := hlatency own
          rw [hlength]
          omega

namespace Served

variable {now : Instant} {qs qs' : List Queue} {as : List Attempt}

/-- A tick hands over at most one batch of a queue, in the order of the queues. -/
theorem owners (h : Served now qs as qs') :
    (as.map (·.batch.owner)).Sublist (qs.map (some ·.user)) := by
  induction h with
  | done => exact .slnil
  | pass _ _ ih => exact ih.cons _
  | hand hands _ _ _ ih =>
    rw [List.map_cons, List.map_cons, hands.owner]
    exact ih.cons_cons _
  | broke hands _ _ =>
    rw [List.map_cons, List.map_cons, hands.owner]
    exact (List.nil_sublist _).cons_cons _

/-- What a tick hands over was due. -/
theorem due (h : Served now qs as qs') : ∀ a ∈ as, ∀ e ∈ a.batch.events, e.time < a.batch.cut := by
  have hhands : ∀ {q q₁ : Queue} {a : Attempt}, q.Hands a q₁ →
      ∀ e ∈ a.batch.events, e.time < a.batch.cut := by
    intro q q₁ a hands e he
    rw [hands.due] at he
    simpa using List.mem_takeWhile_imp he
  induction h with
  | done => exact fun _ ha => absurd ha List.not_mem_nil
  | pass _ _ ih => exact ih
  | hand hands _ _ _ ih => exact List.forall_mem_cons.2 ⟨hhands hands, ih⟩
  | broke hands _ _ => exact List.forall_mem_singleton.2 (hhands hands)

/-- A tick whose batches are all recorded leaves nothing that was due. -/
theorem left (h : Served now qs as qs') (hall : ∀ a ∈ as, a.recorded)
    (hordered : ∀ q ∈ qs, TimeOrdered q.events) : ∀ q' ∈ qs', ∀ e ∈ q'.events, now ≤ e.time := by
  induction h with
  | done => exact fun _ hq' => absurd hq' List.not_mem_nil
  | @pass q rest rest' as hnone _ ih =>
    obtain ⟨hq, hordered⟩ := List.forall_mem_cons.1 hordered
    refine List.forall_mem_cons.2 ⟨fun e he => ?_, ih hall hordered⟩
    rw [← List.takeWhile_append_dropWhile (p := fun e : Event => decide (e.time < now))
      (l := q.events), hnone, List.nil_append] at he
    exact Queue.not_lt_of_mem_dropWhile hq he
  | hand hands hcut _ _ ih =>
    obtain ⟨hq, hordered⟩ := List.forall_mem_cons.1 hordered
    obtain ⟨-, hall⟩ := List.forall_mem_cons.1 hall
    refine List.forall_mem_cons.2 ⟨fun e he => ?_, ih hall hordered⟩
    rw [hands.left, hcut] at he
    exact Queue.not_lt_of_mem_dropWhile hq he
  | broke _ _ hnot => exact absurd (hall _ List.mem_cons_self) hnot

/-- A tick leaves queues in order in order. -/
theorem ordered (h : Served now qs as qs') (hordered : ∀ q ∈ qs, TimeOrdered q.events) :
    ∀ q' ∈ qs', TimeOrdered q'.events := by
  intro q' hq'
  obtain ⟨q, hq, hleaves⟩ := h.leaves q' hq'
  exact (hordered q hq).sublist hleaves.rest.sublist

end Served

/-- Where moments do not go back, those past an instant come last. -/
theorem filter_append_late {bs : List Batch} (deadline : Instant)
    (h : bs.Pairwise fun b c => b.moment ≤ c.moment) :
    bs = bs.filter (·.moment ≤ deadline) ++ bs.filter (deadline < ·.moment) := by
  induction h with
  | nil => rfl
  | @cons b rest hb _ ih =>
    by_cases hle : b.moment ≤ deadline
    · have hnot : ¬ deadline < b.moment := Nat.not_lt.2 hle
      rw [List.filter_cons_of_pos (by simpa using hle),
        List.filter_cons_of_neg (by simpa using hnot), List.cons_append, ← ih]
    · have hlt : deadline < b.moment := Nat.lt_of_not_le hle
      have hall : ∀ c ∈ rest, deadline < c.moment := fun c hc => Nat.lt_of_lt_of_le hlt (hb c hc)
      have hnone : rest.filter (·.moment ≤ deadline) = [] := by
        refine List.filter_eq_nil_iff.2 fun c hc => ?_
        have := hall c hc
        simp only [Instant.lt_def, Instant.le_def, decide_eq_true_eq] at this ⊢
        omega
      rw [List.filter_cons_of_neg (by simpa using hle),
        List.filter_cons_of_pos (by simpa using hlt), hnone, List.nil_append,
        List.filter_eq_self.2 fun c hc => decide_eq_true (hall c hc)]

/-! ## The ticks of a run -/

namespace Run

variable {sink : Sink} {clock : Clock} {interval : Interval} {deadline : Instant}

/-- The tick that begins in a state. -/
def tick (r : Run) (sink : Sink) (clock : Clock) : Tick :=
  serve sink clock (clock.read r.elapsed) r.queues r.elapsed

theorem tick_served (r : Run) (sink : Sink) (clock : Clock) :
    Served (clock.read r.elapsed) r.queues (r.tick sink clock).attempts (r.tick sink clock).queues :=
  serve_served _ _ _ _ _

theorem map_attempts_tick (r : Run) (sink : Sink) (clock : Clock) :
    (r.tick sink clock).attempts.map (·.batch) = (r.tick sink clock).batches :=
  batch_attemptsOf _ _

/-- What a tick hands over was due. -/
theorem due_of_mem_tick (r : Run) {b : Batch} (hb : b ∈ (r.tick sink clock).batches) :
    ∀ e ∈ b.events, e.time < b.cut := by
  rw [← r.map_attempts_tick] at hb
  obtain ⟨a, ha, rfl⟩ := List.mem_map.1 hb
  exact (r.tick_served sink clock).due a ha

/-- A tick hands over at most one batch of a queue. -/
theorem owners_tick (r : Run) (sink : Sink) (clock : Clock) :
    ((r.tick sink clock).batches.map fun b => b.owner.map (·.place)).Sublist
      (r.queues.map fun q => some q.user.place) := by
  have howners := (r.tick_served sink clock).owners.map (Option.map User.place)
  rw [List.map_map, List.map_map] at howners
  rw [← r.map_attempts_tick, List.map_map]
  exact howners

theorem ticks_step (r : Run) :
    (r.step sink clock interval).ticks.toList = r.ticks.toList ++ [r.elapsed] := by
  simp [step]

theorem batches_step (r : Run) : (r.step sink clock interval).batches.toList =
    r.batches.toList ++ (r.tick sink clock).batches := by
  simp [step, tick]

theorem tick_elapsed_le_step (r : Run) :
    (r.tick sink clock).elapsed ≤ (r.step sink clock interval).elapsed := by
  unfold tick step
  simp only
  split
  · exact Nat.le_refl _
  · exact Nat.le_add_right _ _

/-- The batches of a run are those of its ticks. -/
theorem batches_toDeadline (r : Run) :
    (toDeadline sink clock interval deadline r).batches.toList =
      r.batches.toList ++ (beginnings sink clock interval deadline r).flatMap fun begun =>
        (begun.tick sink clock).batches := by
  fun_induction toDeadline sink clock interval deadline r with
  | case1 r hgoes next hnext ih =>
    rw [beginnings, if_pos hgoes, ih]
    simp only
    rw [dif_pos hnext, List.flatMap_cons]
    simp [next, step, tick]
  | case2 r hgoes next hnext =>
    rw [beginnings, if_pos hgoes]
    simp only
    rw [dif_neg hnext]
    simp [next, step, tick]
  | case3 r hover =>
    rw [beginnings, if_neg hover, List.flatMap_nil, List.append_nil]

/-- A run that goes on begins a tick. -/
theorem mem_beginnings_self {r : Run}
    (hgoes : r.elapsed < clock.horizon deadline ∧ clock.read r.elapsed ≤ deadline) :
    r ∈ beginnings sink clock interval deadline r := by
  rw [beginnings, if_pos hgoes]
  simp only
  split
  · exact List.mem_cons_self
  · exact List.mem_singleton_self r

/-- A tick begins no earlier than the run and not past the deadline, with the users of the run. -/
theorem of_mem_beginnings (sink : Sink) (clock : Clock) (interval : Interval) (deadline : Instant)
    (r : Run) : ∀ begun ∈ beginnings sink clock interval deadline r, r.elapsed ≤ begun.elapsed ∧
      clock.read begun.elapsed ≤ deadline ∧
      begun.queues.map (·.user.place) = r.queues.map (·.user.place) := by
  fun_induction beginnings sink clock interval deadline r with
  | case1 r hgoes next hnext ih =>
    have hlt : r.elapsed < next.elapsed := lt_elapsed_step r sink clock interval hnext
    have hplaces : next.queues.map (·.user.place) = r.queues.map (·.user.place) :=
      (r.tick_served sink clock).places
    intro begun hbegun
    rcases List.mem_cons.1 hbegun with rfl | hbegun
    · exact ⟨Nat.le_refl _, hgoes.2, rfl⟩
    · obtain ⟨hle, hread, hsame⟩ := ih begun hbegun
      exact ⟨by omega, hread, hsame.trans hplaces⟩
  | case2 r hgoes next hnext =>
    intro begun hbegun
    rw [List.mem_singleton.1 hbegun]
    exact ⟨Nat.le_refl _, hgoes.2, rfl⟩
  | case3 r hover => exact fun _ hbegun => absurd hbegun List.not_mem_nil

/-- A tick begins when the one before it is over. -/
theorem beginnings_pairwise (sink : Sink) (clock : Clock) (interval : Interval) (deadline : Instant)
    (r : Run) : (beginnings sink clock interval deadline r).Pairwise fun begun later =>
      (begun.tick sink clock).elapsed ≤ later.elapsed := by
  fun_induction beginnings sink clock interval deadline r with
  | case1 r hgoes next hnext ih =>
    refine List.pairwise_cons.2 ⟨fun later hlater => ?_, ih⟩
    have hnext : (r.tick sink clock).elapsed ≤ next.elapsed := r.tick_elapsed_le_step
    have hle := (of_mem_beginnings sink clock interval deadline next later hlater).1
    omega
  | case2 r hgoes next hnext => exact List.pairwise_singleton _ _
  | case3 r hover => exact .nil

/-- A tick that does not break off leaves nothing of queues in order that was due at it or before. -/
theorem left_step {r : Run} (hordered : ∀ q ∈ r.queues, TimeOrdered q.events)
    (hleft : ∀ q ∈ r.queues, ∀ e ∈ q.events, ∀ t ∈ r.ticks.toList, clock.read t ≤ e.time)
    (hnext : (r.step sink clock interval).broken = none) :
    ∀ q ∈ (r.step sink clock interval).queues, ∀ e ∈ q.events,
      ∀ t ∈ (r.step sink clock interval).ticks.toList, clock.read t ≤ e.time := by
  have hserved : Served (clock.read r.elapsed) r.queues (r.tick sink clock).attempts
      (r.step sink clock interval).queues := r.tick_served sink clock
  have hrecorded : ∀ a ∈ (r.tick sink clock).attempts, a.recorded := fun a ha =>
    recorded_of_serve hnext ha
  intro q' hq' e he t ht
  rw [ticks_step, List.mem_append, List.mem_singleton] at ht
  rcases ht with ht | rfl
  · obtain ⟨q, hq, hleaves⟩ := hserved.leaves q' hq'
    exact hleft q hq e (hleaves.rest.mem he) t ht
  · exact hserved.left hrecorded hordered q' hq' e he

/-- What a run that does not break off leaves of queues in order was due at none of its ticks. -/
theorem left_toDeadline (r : Run) (hordered : ∀ q ∈ r.queues, TimeOrdered q.events)
    (hleft : ∀ q ∈ r.queues, ∀ e ∈ q.events, ∀ t ∈ r.ticks.toList, clock.read t ≤ e.time)
    (hunbroken : (toDeadline sink clock interval deadline r).broken = none) :
    ∀ q ∈ (toDeadline sink clock interval deadline r).queues, ∀ e ∈ q.events,
      ∀ t ∈ (toDeadline sink clock interval deadline r).ticks.toList, clock.read t ≤ e.time := by
  fun_induction toDeadline sink clock interval deadline r with
  | case1 r hgoes next hnext ih =>
    have hserved := r.tick_served sink clock
    exact ih (hserved.ordered hordered) (left_step hordered hleft hnext) hunbroken
  | case2 r hgoes next hnext => exact absurd hunbroken hnext
  | case3 r hover => exact hleft

/-! ## Batches past the deadline -/

/-- The batches that were handed over past a deadline. -/
def late (r : Run) (deadline : Instant) : List Batch :=
  r.batches.toList.filter (deadline < ·.moment)

/-- How a run over some queues keeps a deadline. -/
structure HeldTo (r : Run) (sink : Sink) (clock : Clock) (queues : List Queue)
    (deadline : Instant) : Prop where
  /-- No tick begins past the deadline. -/
  ticks : ∀ t ∈ r.ticks.toList, clock.read t ≤ deadline
  /-- What is handed over was due at a tick, and waits only for deliveries of other queues. -/
  batches : ∀ b ∈ r.batches.toList, (∀ e ∈ b.events, e.time < b.cut) ∧
    ∃ t ∈ r.ticks.toList, b.cut = clock.read t ∧ b.moment = clock.read b.elapsed ∧ t ≤ b.elapsed ∧
      ∀ longest, (∀ c, sink.latency c ≤ longest) →
        b.elapsed + longest ≤ t + queues.length * longest
  /-- The batches past the deadline come last. -/
  behind : r.batches.toList = r.batches.toList.filter (·.moment ≤ deadline) ++ r.late deadline
  /-- All of them belong to the last tick. -/
  last : ∀ b ∈ r.late deadline, ∃ t, r.ticks.toList.getLast? = some t ∧ b.cut = clock.read t
  /-- There is at most one of them for a queue. -/
  once : ((r.late deadline).map fun b => b.owner.map (·.place)).Sublist
    (queues.map fun q => some q.user.place)
  /-- Nothing that is left over was due at a tick. -/
  left : r.broken = none → (∀ q ∈ queues, TimeOrdered q.events) →
    ∀ q ∈ r.queues, ∀ e ∈ q.events, ∀ t ∈ r.ticks.toList, clock.read t ≤ e.time

/-- Where deliveries take no time no batch is late. -/
theorem HeldTo.late_eq_nil {r : Run} {queues : List Queue}
    (h : r.HeldTo sink clock queues deadline) (hlatency : ∀ b, sink.latency b = 0) :
    r.late deadline = [] := by
  refine List.filter_eq_nil_iff.2 fun b hb => ?_
  obtain ⟨-, t, ht, -, hmoment, hle, hdelay⟩ := h.batches b hb
  have hdelay := hdelay 0 fun c => Nat.le_of_eq (hlatency c)
  have hsame : b.elapsed = t := by omega
  have hread : (clock.read t).millis ≤ deadline.millis := h.ticks t ht
  rw [hsame] at hmoment
  simp only [decide_eq_true_eq, Instant.lt_def, hmoment]
  omega

section Fresh

variable {queues : List Queue} {elapsed : Nat}

/-- Every batch of a run belongs to one of its ticks. -/
theorem exists_tick_of_batch {b : Batch}
    (hb : b ∈ (toDeadline sink clock interval deadline { queues, elapsed }).batches.toList) :
    ∃ begun ∈ beginnings sink clock interval deadline { queues, elapsed },
      b ∈ (begun.tick sink clock).batches := by
  rw [batches_toDeadline] at hb
  exact List.mem_flatMap.1 (by simpa using hb)

/-- A batch of a tick that is followed by another is handed over before that one begins. -/
theorem moment_le_of_tick (hclock : clock.Forward) {begun later : Run} {b : Batch}
    (hb : b ∈ (begun.tick sink clock).batches)
    (hlater : (begun.tick sink clock).elapsed ≤ later.elapsed) :
    b.moment ≤ clock.read later.elapsed := by
  have hdone := ((serve_moments sink clock _ begun.queues begun.elapsed).2 b hb).2
  rw [(serve_delay sink clock _ begun.queues begun.elapsed b hb).1]
  exact hclock _ _ (hdone.trans hlater)

/-- Of the ticks of a run only the last one can hand over past the deadline. -/
theorem late_cases (hclock : clock.Forward) (sink : Sink) (interval : Interval)
    (deadline : Instant) (queues : List Queue) (elapsed : Nat) :
    (toDeadline sink clock interval deadline { queues, elapsed }).late deadline = [] ∨
      ∃ last ∈ beginnings sink clock interval deadline { queues, elapsed },
        (toDeadline sink clock interval deadline { queues, elapsed }).ticks.toList.getLast? =
          some last.elapsed ∧
        (toDeadline sink clock interval deadline { queues, elapsed }).late deadline =
          (last.tick sink clock).batches.filter (deadline < ·.moment) := by
  have hpairwise := beginnings_pairwise sink clock interval deadline { queues, elapsed }
  have hbegins := of_mem_beginnings sink clock interval deadline { queues, elapsed }
  unfold late
  rw [ticks_toDeadline, batches_toDeadline]
  generalize beginnings sink clock interval deadline { queues, elapsed } = ticks at *
  rcases List.eq_nil_or_concat ticks with rfl | ⟨init, last, rfl⟩
  · exact .inl rfl
  · rw [List.concat_eq_append] at *
    have hmem : last ∈ init ++ [last] := List.mem_append_right _ (List.mem_singleton_self last)
    have hread : clock.read last.elapsed ≤ deadline := (hbegins last hmem).2.1
    have hearly : (init.flatMap fun begun => (begun.tick sink clock).batches).filter
        (deadline < ·.moment) = [] := by
      refine List.filter_eq_nil_iff.2 fun b hb => ?_
      obtain ⟨begun, hbegun, hb⟩ := List.mem_flatMap.1 hb
      have hover := (List.pairwise_append.1 hpairwise).2.2 begun hbegun last
        (List.mem_singleton_self last)
      have hle := moment_le_of_tick hclock hb hover
      simp only [decide_eq_true_eq, Instant.lt_def, Instant.le_def] at hread hle ⊢
      omega
    refine .inr ⟨last, hmem, by simp, ?_⟩
    rw [List.flatMap_append, List.filter_append, List.filter_append, hearly]
    simp

/-- What a run hands over was due at one of its ticks and waits only for the deliveries of it. -/
theorem delivered_toDeadline {b : Batch}
    (hb : b ∈ (toDeadline sink clock interval deadline { queues, elapsed }).batches.toList) :
    (∀ e ∈ b.events, e.time < b.cut) ∧
      ∃ t ∈ (toDeadline sink clock interval deadline { queues, elapsed }).ticks.toList,
        b.cut = clock.read t ∧ b.moment = clock.read b.elapsed ∧ t ≤ b.elapsed ∧
        ∀ longest, (∀ c, sink.latency c ≤ longest) →
          b.elapsed + longest ≤ t + queues.length * longest := by
  obtain ⟨begun, hbegun, hb⟩ := exists_tick_of_batch hb
  have hplaces := (of_mem_beginnings sink clock interval deadline _ begun hbegun).2.2
  have hlength : begun.queues.length = queues.length := by
    simpa using congrArg List.length hplaces
  have hdelay := serve_delay sink clock _ begun.queues begun.elapsed b hb
  have hbegins := ((serve_moments sink clock _ begun.queues begun.elapsed).2 b hb).1
  rw [hlength] at hdelay
  refine ⟨begun.due_of_mem_tick hb, begun.elapsed, ?_, serve_cut hb, hdelay.1, hbegins, hdelay.2⟩
  rw [ticks_toDeadline]
  exact List.mem_map_of_mem hbegun

/-- The batches that a run hands over past the deadline come last. -/
theorem behind_toDeadline (hclock : clock.Forward) :
    (toDeadline sink clock interval deadline { queues, elapsed }).batches.toList =
      (toDeadline sink clock interval deadline { queues, elapsed }).batches.toList.filter
          (·.moment ≤ deadline) ++
        (toDeadline sink clock interval deadline { queues, elapsed }).late deadline := by
  have hmoments : (toDeadline sink clock interval deadline
      { queues, elapsed }).batches.toList.Pairwise (·.elapsed ≤ ·.elapsed) :=
    toDeadline_moments _ _ .nil fun _ h => absurd h List.not_mem_nil
  refine filter_append_late deadline (hmoments.imp_of_mem fun {b c} hb hc hle => ?_)
  obtain ⟨-, -, -, -, hread, -⟩ := delivered_toDeadline hb
  obtain ⟨-, -, -, -, hread', -⟩ := delivered_toDeadline hc
  rw [hread, hread']
  exact hclock _ _ hle

/-- They all belong to its last tick. -/
theorem late_last (hclock : clock.Forward) {b : Batch}
    (hb : b ∈ (toDeadline sink clock interval deadline { queues, elapsed }).late deadline) :
    ∃ t, (toDeadline sink clock interval deadline { queues, elapsed }).ticks.toList.getLast? =
      some t ∧ b.cut = clock.read t := by
  rcases late_cases hclock sink interval deadline queues elapsed with hnone | ⟨last, -, hlast, hlate⟩
  · rw [hnone] at hb
    cases hb
  · rw [hlate] at hb
    exact ⟨last.elapsed, hlast, serve_cut (List.mem_of_mem_filter hb)⟩

/-- There is at most one of them for a queue. -/
theorem late_owners (hclock : clock.Forward) :
    (((toDeadline sink clock interval deadline { queues, elapsed }).late deadline).map
      fun b => b.owner.map (·.place)).Sublist (queues.map fun q => some q.user.place) := by
  rcases late_cases hclock sink interval deadline queues elapsed with hnone | ⟨last, hmem, -, hlate⟩
  · rw [hnone]
    exact List.nil_sublist _
  · have hplaces := congrArg (List.map some)
      (of_mem_beginnings sink clock interval deadline _ last hmem).2.2
    rw [List.map_map, List.map_map] at hplaces
    rw [hlate]
    refine (List.filter_sublist.map _).trans ?_
    exact hplaces ▸ last.owners_tick sink clock

end Fresh

end Run

/-- **Every run is held to its deadline** as far as its ticks are: none begins past it, all that a
tick finds due is handed over, and what is not due at the last tick is left over. The batches that
are handed over past the deadline all belong to the last tick, at most one for a queue, and each of
them is late by no more than the deliveries before it take. -/
theorem pace_heldTo (sink : Sink) {clock : Clock} (hclock : clock.Forward) (interval : Interval)
    (grace : Nat) (finish : Instant) (queues : List Queue) (elapsed : Nat) :
    (pace sink clock interval grace finish queues elapsed).HeldTo sink clock queues
      (finish.plus grace) := by
  unfold pace
  generalize finish.plus grace = deadline
  constructor
  · intro t ht
    rw [Run.ticks_toDeadline] at ht
    obtain ⟨begun, hbegun, rfl⟩ := List.mem_map.1 ht
    exact (Run.of_mem_beginnings sink clock interval deadline _ begun hbegun).2.1
  · exact fun b hb => Run.delivered_toDeadline hb
  · exact Run.behind_toDeadline hclock
  · exact fun b hb => Run.late_last hclock hb
  · exact Run.late_owners hclock
  · intro hunbroken hordered
    exact Run.left_toDeadline _ hordered (fun _ _ _ _ _ ht => absurd ht List.not_mem_nil) hunbroken

/-! ## A run past its deadline -/

/-- A sink that accepts everything after a tenth of a second. -/
def Sink.slow : Sink := { latency := fun _ => 100 }

/-- Two users with an event each. -/
def Queue.two : List Queue := [.ofTimes 1 [.cap 5], .ofTimes 2 [.cap 5]]

theorem pace_heldTo_two :
    (Clock.startingAt ⟨10, by decide⟩).Forward ∧
      (pace .slow (.startingAt ⟨10, by decide⟩) { millis := 10 } 0 ⟨60, by decide⟩ Queue.two
        0).HeldTo .slow (.startingAt ⟨10, by decide⟩) Queue.two ⟨60, by decide⟩ :=
  ⟨Clock.startingAt_forward _, pace_heldTo .slow (Clock.startingAt_forward _) _ 0 _ Queue.two 0⟩

/-- **A batch past the deadline**: the delivery of the first user lasts beyond it, and the batch of
the second is handed over all the same. -/
theorem pace_late : ∃ b ∈ (pace .slow (.startingAt ⟨10, by decide⟩) { millis := 10 } 0
    ⟨60, by decide⟩ Queue.two 0).batches.toList, Instant.plus ⟨60, by decide⟩ 0 < b.moment := by
  have hlate : ∃ b ∈ (Run.tick { queues := Queue.two, elapsed := 0 } .slow
      (.startingAt ⟨10, by decide⟩)).batches, Instant.plus ⟨60, by decide⟩ 0 < b.moment := by
    decide
  obtain ⟨b, hb, hlate⟩ := hlate
  refine ⟨b, ?_, hlate⟩
  unfold pace
  rw [Run.batches_toDeadline]
  exact List.mem_append_right _
    (List.mem_flatMap.2 ⟨_, Run.mem_beginnings_self (by decide), hb⟩)

end ShopTraffic
