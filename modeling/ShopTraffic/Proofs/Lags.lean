import Mathlib
import ShopTraffic.Proofs.Loads
import ShopTraffic.Stream.Books

/-!
# Lags

An event lags by what lies between its own time and the reading of the clock when its batch is handed
over. A pacer enters another lag: it reads the clock when a tick begins and never during the tick, so
what a batch waits for the deliveries before it does not show, and no lag above two seconds is
entered as it was measured.

* `Attempt.lags`, `lag_book` — the lags that a run enters;
* `OneByOne`, `serve_oneByOne` — how the batches of a tick follow each other; `Run.InTurn`,
  `InTurn.step`, `inTurn_toDeadline` — and those of a run;
* `Run.Measured`, `book_measured` — what is entered of every run, and where it is the lag;
  `book_behind` — a run that falls behind, and one that lags for long;
* `Run.Prompt`, `Awaiting.step`, `reaches_prompt` — how far events lag where deliveries take no time.
-/

set_option autoImplicit false

namespace ShopTraffic

/-! ## The lags that are entered -/

/-- The lags that are entered of a batch: those of its events at the reading when it was cut, if it
is recorded. -/
def Attempt.lags (a : Attempt) : List Nat :=
  if a.recorded then a.batch.events.map fun e => Lag.entered (a.batch.cut.since e.time) else []

theorem Lag.entries_record (l : Lag) (now : Instant) (events : List Event) :
    (l.record now events).entries =
      (events.map fun e => entered (now.since e.time)).reverse ++ l.entries := by
  unfold record
  generalize l.entries = entries
  induction events generalizing entries with
  | nil => rfl
  | cons e rest ih =>
    rw [List.foldl_cons, ih, List.map_cons, List.reverse_cons, List.append_assoc]
    rfl

theorem Books.lag_enter (sink : Sink) (every : Nat) (b : Books) (a : ShardAttempt) :
    (b.enter sink every a).lag.entries = a.attempt.lags.reverse ++ b.lag.entries := by
  unfold enter Attempt.lags
  simp only
  split
  · exact Lag.entries_record _ _ _
  · rfl

theorem Books.lag_enterAll (sink : Sink) (every : Nat) (b : Books) (as : List ShardAttempt) :
    (b.enterAll sink every as).lag.entries =
      (as.flatMap (·.attempt.lags)).reverse ++ b.lag.entries := by
  unfold enterAll
  induction as generalizing b with
  | nil => rfl
  | cons a rest ih =>
    rw [List.foldl_cons, ih, lag_enter, List.flatMap_cons, List.reverse_append, List.append_assoc]

/-- A run enters the lags of its batches, the newest first. -/
theorem Run.lag_book (r : Run) (sink : Sink) (every : Nat) (shard : ShardId) (b : Books) :
    (r.book sink every shard b).lag.entries =
      (r.attempts.flatMap Attempt.lags).reverse ++ b.lag.entries := by
  have hentered := b.lag_enterAll sink every (r.attempts.map (⟨shard, ·⟩))
  rw [List.flatMap_map] at hentered
  unfold book
  split <;> exact hentered

/-! ## When batches are handed over -/

/-- Batches that are handed over one after the other from a moment on. -/
def OneByOne (sink : Sink) (clock : Clock) : Nat → List Batch → Prop
  | _, [] => True
  | t, b :: later =>
    b.elapsed = t ∧ b.moment = clock.read t ∧ OneByOne sink clock (t + sink.latency b) later

/-- The batches of a tick are handed over one after the other. -/
theorem serve_oneByOne (sink : Sink) (clock : Clock) (now : Instant) (queues : List Queue)
    (elapsed : Nat) :
    OneByOne sink clock elapsed (serve sink clock now queues elapsed).batches := by
  induction queues generalizing elapsed with
  | nil => trivial
  | cons q rest ih =>
    unfold serve
    simp only
    split
    · exact ih elapsed
    · split
      · exact ⟨rfl, rfl, trivial⟩
      · split
        · exact ⟨rfl, rfl, trivial⟩
        · exact ⟨rfl, rfl, ih _⟩

/-- Each of them is handed over when the deliveries before it are over. -/
theorem OneByOne.split {sink : Sink} {clock : Clock} {t : Nat} {before after : List Batch}
    {b : Batch} (h : OneByOne sink clock t (before ++ b :: after)) :
    b.elapsed = t + totalOf sink.latency before ∧ b.moment = clock.read b.elapsed := by
  induction before generalizing t with
  | nil =>
    obtain ⟨helapsed, hmoment, -⟩ := h
    rw [helapsed]
    exact ⟨rfl, hmoment⟩
  | cons first before ih =>
    obtain ⟨-, -, hlater⟩ := h
    rw [totalOf_cons, ← Nat.add_assoc]
    exact ih hlater

namespace Run

variable {sink : Sink} {interval : Interval} {deadline origin : Instant}

/-- Every batch is handed over when the deliveries before it in its tick are over. -/
def InTurn (r : Run) (sink : Sink) (clock : Clock) : Prop :=
  ∀ before b after, r.batches.toList = before ++ b :: after → ∃ t ∈ r.ticks.toList,
    b.cut = clock.read t ∧ b.moment = clock.read b.elapsed ∧
      b.elapsed = t + totalOf sink.latency (before.filter (·.cut = b.cut))

/-- A batch of the next tick waits for no batch of a tick before, which has another reading. -/
theorem InTurn.of_tick {r : Run} {clock : Clock} (h : r.InTurn sink clock)
    (hnew : ∀ t ∈ r.ticks.toList, clock.read t ≠ clock.read r.elapsed) {own after : List Batch}
    {b : Batch} (hown : (r.tick sink clock).batches = own ++ b :: after) :
    b.cut = clock.read r.elapsed ∧ b.moment = clock.read b.elapsed ∧ b.elapsed = r.elapsed +
      totalOf sink.latency ((r.batches.toList ++ own).filter (·.cut = b.cut)) := by
  have hcut : ∀ c ∈ own ++ b :: after, c.cut = clock.read r.elapsed := fun c hc =>
    serve_cut (hown ▸ hc : c ∈ (r.tick sink clock).batches)
  have hb : b.cut = clock.read r.elapsed := hcut b (List.mem_append_right _ List.mem_cons_self)
  have hnone : r.batches.toList.filter (·.cut = b.cut) = [] := by
    refine List.filter_eq_nil_iff.2 fun c hc => ?_
    obtain ⟨before, later, hc⟩ := List.append_of_mem hc
    obtain ⟨t, ht, hcutc, -⟩ := h before c later hc
    rw [decide_eq_true_eq, hcutc, hb]
    exact hnew t ht
  have hall : own.filter (·.cut = b.cut) = own := by
    refine List.filter_eq_self.2 fun c hc => ?_
    rw [decide_eq_true_eq, hb]
    exact hcut c (List.mem_append_left _ hc)
  have hserved : OneByOne sink clock r.elapsed (r.tick sink clock).batches :=
    serve_oneByOne _ _ _ _ _
  rw [hown] at hserved
  obtain ⟨helapsed, hmoment⟩ := hserved.split
  rw [List.filter_append, hnone, List.nil_append, hall]
  exact ⟨hb, hmoment, helapsed⟩

/-- One tick more, with a reading of its own. -/
theorem InTurn.step {r : Run} {clock : Clock} (h : r.InTurn sink clock)
    (hnew : ∀ t ∈ r.ticks.toList, clock.read t ≠ clock.read r.elapsed) :
    (r.step sink clock interval).InTurn sink clock := by
  intro before b after hsplit
  rw [batches_step] at hsplit
  rw [ticks_step]
  have hself : r.elapsed ∈ r.ticks.toList ++ [r.elapsed] := List.mem_append_right _ (by simp)
  rcases List.append_eq_append_iff.1 hsplit with ⟨own, rfl, hown⟩ | ⟨rest, hold, hrest⟩
  · exact ⟨r.elapsed, hself, h.of_tick hnew hown⟩
  · cases rest with
    | nil =>
      obtain rfl : before = r.batches.toList := by simpa using hold.symm
      have hown : (r.tick sink clock).batches = [] ++ b :: after := hrest.symm
      have hturn := h.of_tick hnew hown
      rw [List.append_nil] at hturn
      exact ⟨r.elapsed, hself, hturn⟩
    | cons c later =>
      obtain ⟨rfl, -⟩ := List.cons.inj hrest
      obtain ⟨t, ht, hturn⟩ := h before b later hold
      exact ⟨t, List.mem_append_left _ ht, hturn⟩

/-- **The batches of a run** are handed over one after the other, tick by tick. -/
theorem inTurn_toDeadline (r : Run) (h : r.InTurn sink (.startingAt origin))
    (hbefore : ∀ t ∈ r.ticks.toList, t < r.elapsed) :
    (toDeadline sink (.startingAt origin) interval deadline r).InTurn sink (.startingAt origin) := by
  have hnew : ∀ {r : Run}, r.elapsed < (Clock.startingAt origin).horizon deadline →
      (∀ t ∈ r.ticks.toList, t < r.elapsed) → ∀ t ∈ r.ticks.toList,
        (Clock.startingAt origin).read t ≠ (Clock.startingAt origin).read r.elapsed := by
    intro r hgoes hbefore t ht
    have hcounted : origin.millis + r.elapsed < 0x10000000000000000 := by
      have hdeadline := deadline.millis_lt
      simp only [Clock.startingAt] at hgoes
      omega
    exact Clock.startingAt_ne (hbefore t ht) hcounted
  fun_induction toDeadline sink (.startingAt origin) interval deadline r with
  | case1 r hgoes next hnext ih =>
    have hlt : r.elapsed < next.elapsed :=
      lt_elapsed_step r sink (.startingAt origin) interval hnext
    refine ih (h.step (hnew hgoes.1 hbefore)) ?_
    rw [ticks_step]
    refine List.forall_mem_append.2 ⟨fun t ht => ?_, List.forall_mem_singleton.2 hlt⟩
    exact (hbefore t ht).trans hlt
  | case2 r hgoes next hnext => exact h.step (hnew hgoes.1 hbefore)
  | case3 r hover => exact h

/-- A run ends with a tick after which the clock is past the deadline. -/
theorem toDeadline_of_last {clock : Clock} {r : Run}
    (hgoes : r.elapsed < clock.horizon deadline ∧ clock.read r.elapsed ≤ deadline)
    (hover : ¬ ((r.step sink clock interval).elapsed < clock.horizon deadline ∧
      clock.read (r.step sink clock interval).elapsed ≤ deadline)) :
    toDeadline sink clock interval deadline r = r.step sink clock interval := by
  rw [toDeadline, if_pos hgoes]
  simp only
  split
  · rw [toDeadline, if_neg hover]
  · rfl

/-- What a run enters of its lags, and how far that is from the lags themselves. -/
structure Measured (r : Run) (sink : Sink) (clock : Clock) (old new : Lag) : Prop where
  /-- What is entered is measured where the batches were cut. -/
  entries : new.entries = (r.attempts.flatMap Attempt.lags).reverse ++ old.entries
  inTurn : r.InTurn sink clock
  /-- An event lags by what is measured and by what its batch has waited in the tick. -/
  waited : ∀ b ∈ r.batches.toList, ∀ e ∈ b.events,
    b.moment.since e.time = b.cut.since e.time + b.moment.since b.cut
  /-- The lag itself is entered of a batch that did not wait, as long as the lag is short. -/
  exact_iff : ∀ b ∈ r.batches.toList, ∀ e ∈ b.events,
    Lag.entered (b.cut.since e.time) = b.moment.since e.time ↔
      b.moment = b.cut ∧ b.cut.since e.time < 2048

end Run

/-- Nothing is added to what is measured, and only what is short is entered as it is. -/
theorem Lag.entered_eq_add_iff (lag waited : Nat) :
    entered lag = lag + waited ↔ waited = 0 ∧ lag < 2048 := by
  unfold entered
  split <;> omega

/-- **What every run enters of its lags**: of every event that is recorded the lag behind the reading
when its tick began. An event lags further, by the deliveries before its own in the tick; so what is
entered is the lag exactly where a batch did not wait and the lag is short. -/
theorem book_measured (sink : Sink) (origin : Instant) (interval : Interval) (grace : Nat)
    (finish : Instant) (queues : List Queue) (start every : Nat) (shard : ShardId) (b : Books) :
    (pace sink (.startingAt origin) interval grace finish queues start).Measured sink
      (.startingAt origin) b.lag
      ((pace sink (.startingAt origin) interval grace finish queues start).book sink every shard
        b).lag := by
  have hlate : ∀ c ∈ (pace sink (.startingAt origin) interval grace finish queues
      start).batches.toList, (∀ e ∈ c.events, e.time < c.cut) ∧ c.cut ≤ c.moment := by
    intro c hc
    obtain ⟨hdue, t, -, hcut, hmoment, hle, -⟩ := Run.delivered_toDeadline hc
    rw [hmoment]
    exact ⟨hdue, hcut ▸ Clock.startingAt_forward origin _ _ hle⟩
  have hwaited : ∀ c ∈ (pace sink (.startingAt origin) interval grace finish queues
      start).batches.toList, ∀ e ∈ c.events,
        c.moment.since e.time = c.cut.since e.time + c.moment.since c.cut := by
    intro c hc e he
    obtain ⟨hdue, hle⟩ := hlate c hc
    have hlt := hdue e he
    simp only [Instant.lt_def, Instant.le_def] at hlt hle
    unfold Instant.since
    omega
  constructor
  case entries => exact Run.lag_book _ _ _ _ _
  case inTurn =>
    refine Run.inTurn_toDeadline _ (fun before c after hnone => ?_) fun t ht => ?_
    · simp at hnone
    · exact absurd ht List.not_mem_nil
  case waited => exact hwaited
  case exact_iff =>
    intro c hc e he
    have hle : c.cut.millis ≤ c.moment.millis := (hlate c hc).2
    have hsame : c.moment.since c.cut = 0 ↔ c.moment = c.cut := by
      unfold Instant.since
      refine ⟨fun hzero => Instant.ext_millis (by omega), fun heq => ?_⟩
      rw [heq, Nat.sub_self]
    rw [hwaited c hc e he, Lag.entered_eq_add_iff, hsame]

/-- How far the events of a run lag, in the order of hand-over. -/
def Run.lags (r : Run) : List Nat :=
  r.batches.toList.flatMap fun b => b.events.map fun e => b.moment.since e.time

/-- A run whose second batch waits a tenth of a second for the first one. -/
def Run.heldUp : Run :=
  pace .slow (.startingAt ⟨10, by decide⟩) { millis := 10 } 0 ⟨60, by decide⟩ Queue.two 0

/-- A run whose first tick comes almost three seconds after the event. -/
def Run.overdue : Run :=
  pace .accepting (.startingAt ⟨3000, by decide⟩) { millis := 10 } 0 ⟨3000, by decide⟩
    [.ofTimes 1 [.cap 5]] 0

/-- **Lags that are not entered as they are**: the wait within the tick does not show, and of a lag
of almost three seconds two milliseconds are entered. -/
theorem book_behind :
    Run.heldUp.lags = [5, 105] ∧ (Run.heldUp.book .slow 100 ⟨0⟩ {}).lag.entries = [5, 5] ∧
      Run.overdue.lags = [2995] ∧ (Run.overdue.book .accepting 100 ⟨0⟩ {}).lag.entries = [2] := by
  have hheld : Run.heldUp = Run.step { queues := Queue.two, elapsed := 0 } .slow
      (.startingAt ⟨10, by decide⟩) { millis := 10 } :=
    Run.toDeadline_of_last (by decide) (by decide)
  have hoverdue : Run.overdue = Run.step { queues := [.ofTimes 1 [.cap 5]], elapsed := 0 } .accepting
      (.startingAt ⟨3000, by decide⟩) { millis := 10 } :=
    Run.toDeadline_of_last (by decide) (by decide)
  rw [hheld, hoverdue]
  decide

/-! ## Lags where deliveries take no time -/

namespace Run

variable {sink : Sink} {interval : Interval} {deadline origin : Instant} {start : Nat}

/-- The events from the first tick on lag by less than the interval when they are handed over, or by
the whole of it, and then they are at the very reading of a tick. -/
def Prompt (r : Run) (clock : Clock) (interval : Interval) (start : Nat) : Prop :=
  ∀ b ∈ r.batches.toList, ∀ e ∈ b.events, clock.read start ≤ e.time →
    b.moment.since e.time < interval.millis ∨
      b.moment.since e.time = interval.millis ∧ ∃ t ∈ r.ticks.toList, clock.read t = e.time

/-- A run where deliveries take no time: nothing that waits was due at a tick, and the next tick is
an interval away at most. -/
structure Awaiting (r : Run) (clock : Clock) (interval : Interval) (start : Nat) : Prop where
  prompt : r.Prompt clock interval start
  ordered : ∀ q ∈ r.queues, TimeOrdered q.events
  idle : r.ticks.toList = [] → r.elapsed = start
  left : r.broken = none → ∀ q ∈ r.queues, ∀ e ∈ q.events, ∀ t ∈ r.ticks.toList,
    clock.read t ≤ e.time
  next : r.broken = none → ∀ t ∈ r.ticks.toList.getLast?, r.elapsed ≤ t + interval.millis

/-- What a tick hands over was in a queue. -/
theorem mem_queue_of_mem_tick (r : Run) {clock : Clock} {b : Batch}
    (hb : b ∈ (r.tick sink clock).batches) {e : Event} (he : e ∈ b.events) :
    ∃ q ∈ r.queues, e ∈ q.events := by
  have hevents := (r.tick_served sink clock).events
  rw [← r.map_attempts_tick] at hb
  obtain ⟨a, ha, rfl⟩ := List.mem_map.1 hb
  have hmem : e ∈ ((queuedEvents r.queues : List Event) : Multiset Event) := by
    rw [← hevents]
    exact Multiset.mem_add.2 (.inl (Multiset.mem_coe.2 (List.mem_flatMap.2 ⟨a, ha, he⟩)))
  exact List.mem_flatMap.1 (Multiset.mem_coe.1 hmem)

/-- A batch of a tick whose deliveries take no time is handed over at its reading. -/
theorem moment_of_mem_tick (r : Run) {clock : Clock} (hlatency : ∀ b, sink.latency b = 0) {b : Batch}
    (hb : b ∈ (r.tick sink clock).batches) : b.moment = clock.read r.elapsed := by
  obtain ⟨hmoment, hdelay⟩ := serve_delay sink clock _ r.queues r.elapsed b hb
  have hle := ((serve_moments sink clock _ r.queues r.elapsed).2 b hb).1
  have hdelay := hdelay 0 fun c => Nat.le_of_eq (hlatency c)
  have hsame : b.elapsed = r.elapsed := by omega
  rw [hmoment, hsame]

/-- What the next tick hands over of the time from the first tick on came after the last one. -/
theorem Awaiting.soon {r : Run} (h : r.Awaiting (.startingAt origin) interval start)
    (hunbroken : r.broken = none) {e : Event} (hleft : ∃ q ∈ r.queues, e ∈ q.events)
    (hdue : e.time < (Clock.startingAt origin).read r.elapsed)
    (hfrom : (Clock.startingAt origin).read start ≤ e.time) :
    ((Clock.startingAt origin).read r.elapsed).since e.time < interval.millis ∨
      ((Clock.startingAt origin).read r.elapsed).since e.time = interval.millis ∧
        ∃ t ∈ r.ticks.toList, (Clock.startingAt origin).read t = e.time := by
  obtain ⟨q, hq, he⟩ := hleft
  cases hlast : r.ticks.toList.getLast? with
  | none =>
    -- Nothing from the first tick on can be due at it.
    rw [h.idle (List.getLast?_eq_none_iff.1 hlast)] at hdue
    exact absurd (Instant.lt_of_lt_of_le hdue hfrom) (Nat.lt_irrefl _)
  | some t =>
    have ht := List.mem_of_getLast? hlast
    have hnext := h.next hunbroken t hlast
    have hafter : ((Clock.startingAt origin).read t).millis ≤ e.time.millis :=
      h.left hunbroken q hq e he t ht
    have hgap : ((Clock.startingAt origin).read r.elapsed).millis ≤
        ((Clock.startingAt origin).read t).millis + interval.millis := by
      simp only [Clock.startingAt, Instant.millis_plus]
      omega
    have hpositive := interval.positive
    unfold Instant.since
    generalize (Clock.startingAt origin).read r.elapsed = now at hgap ⊢
    by_cases hlag : now.millis - e.time.millis < interval.millis
    · exact .inl hlag
    · exact .inr ⟨by omega, t, ht, Instant.ext_millis (by omega)⟩

/-- **One tick more** where deliveries take no time. -/
theorem Awaiting.step {r : Run} (hlatency : ∀ b, sink.latency b = 0)
    (hunbroken : r.broken = none) (h : r.Awaiting (.startingAt origin) interval start) :
    (r.step sink (.startingAt origin) interval).Awaiting (.startingAt origin) interval start := by
  constructor
  case prompt =>
    intro b hb e he hfrom
    rw [batches_step] at hb
    rw [ticks_step]
    have hmore : ∀ t ∈ r.ticks.toList, t ∈ r.ticks.toList ++ [r.elapsed] := fun t ht =>
      List.mem_append_left _ ht
    rcases List.mem_append.1 hb with hb | hb
    · refine (h.prompt b hb e he hfrom).imp id ?_
      rintro ⟨heq, t, ht, hat⟩
      exact ⟨heq, t, hmore t ht, hat⟩
    · have hdue := r.due_of_mem_tick hb e he
      have hcut : b.cut = (Clock.startingAt origin).read r.elapsed := serve_cut hb
      rw [r.moment_of_mem_tick hlatency hb]
      refine (h.soon hunbroken (r.mem_queue_of_mem_tick hb he) (hcut ▸ hdue) hfrom).imp id ?_
      rintro ⟨heq, t, ht, hat⟩
      exact ⟨heq, t, hmore t ht, hat⟩
  case ordered => exact (r.tick_served sink (.startingAt origin)).ordered h.ordered
  case idle => simp [ticks_step]
  case left => exact fun hnext => left_step h.ordered (h.left hunbroken) hnext
  case next =>
    intro hnext t ht
    rw [ticks_step, List.getLast?_concat] at ht
    cases ht
    have hlasts : (r.tick sink (.startingAt origin)).elapsed =
        r.elapsed + totalOf sink.latency (r.tick sink (.startingAt origin)).batches :=
      serve_load _ _ _ _ _
    have hnone : (r.tick sink (.startingAt origin)).elapsed = r.elapsed :=
      serve_elapsed hlatency _ _ _
    have hload : totalOf sink.latency (r.tick sink (.startingAt origin)).batches = 0 := by omega
    rw [elapsed_step hnext, hload, Interval.gap_eq, Nat.sub_zero, Nat.zero_add]
    exact Nat.add_le_add_left (restOf_le _) _

end Run

/-- **How far events lag where deliveries take no time**: in every state that a run over queues in
order comes to, whether it ends or not, the events from the first tick on were handed over before
they lagged by a whole interval, but for those at the very reading of a tick, which wait for the
next one. The run itself comes to its end. -/
theorem reaches_prompt {sink : Sink} (hlatency : ∀ b, sink.latency b = 0) {queues : List Queue}
    (hordered : ∀ q ∈ queues, TimeOrdered q.events) (interval : Interval) (origin : Instant)
    (grace start : Nat) (finish : Instant) :
    (∀ r, Run.Reaches sink (.startingAt origin) interval (finish.plus grace)
        { queues, elapsed := start } r → r.Prompt (.startingAt origin) interval start) ∧
      Run.Reaches sink (.startingAt origin) interval (finish.plus grace) { queues, elapsed := start }
        (pace sink (.startingAt origin) interval grace finish queues start) := by
  refine ⟨fun r hr => ?_, Run.toDeadline_reaches _ _ _ _ rfl⟩
  have hstart : Run.Awaiting { queues, elapsed := start } (.startingAt origin) interval start := by
    constructor
    case prompt => simp [Run.Prompt]
    case ordered => exact hordered
    all_goals simp
  have hawaiting : r.Awaiting (.startingAt origin) interval start :=
    hr.preserves (fun _ hunbroken _ h => Run.Awaiting.step hlatency hunbroken h) hstart
  exact hawaiting.prompt

/-- A queue with an event at the second of three ticks. -/
def Queue.atTick : List Queue := [.ofTimes 1 [.cap 10]]

theorem reaches_prompt_atTick :
    (pace .accepting (.startingAt .zero) { millis := 10 } 0 ⟨20, by decide⟩ Queue.atTick 0).Prompt
      (.startingAt .zero) { millis := 10 } 0 := by
  have hordered : ∀ q ∈ Queue.atTick, TimeOrdered q.events := by
    simp [Queue.atTick, Queue.ofTimes, TimeOrdered]
  obtain ⟨hprompt, hends⟩ := reaches_prompt
    (show ∀ b, Sink.accepting.latency b = 0 from fun _ => rfl) hordered
    { millis := 10 } .zero 0 0 ⟨20, by decide⟩
  exact hprompt _ hends

/-- **An event that lags by a whole interval**: it is at the reading of a tick, so that tick leaves
it and the next one hands it over. -/
theorem pace_lagsInterval :
    ∃ b ∈ (pace .accepting (.startingAt .zero) { millis := 10 } 0 ⟨20, by decide⟩ Queue.atTick
        0).batches.toList, ∃ e ∈ b.events,
      (Clock.startingAt .zero).read 0 ≤ e.time ∧ ¬ b.moment.since e.time < 10 := by
  have hends : (pace .accepting (.startingAt .zero) { millis := 10 } 0 ⟨20, by decide⟩ Queue.atTick
      0).UpTo ⟨.zero, 0, restOf 10⟩ Queue.atTick
      (Schedule.count ⟨.zero, 0, restOf 10⟩ (20 + 0)) := by
    refine pace_upTo (fun _ => rfl) (fun _ => rfl) ?_ ?_ _ .zero 0 0 (by decide)
    · simp [Queue.atTick, Queue.ofTimes, TimeOrdered]
    · exact List.forall_mem_singleton.2 (Queue.countable_ofTimes (by decide))
  rw [hends.batches]
  decide

end ShopTraffic
