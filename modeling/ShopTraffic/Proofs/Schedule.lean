import Mathlib
import ShopTraffic.Proofs.Runs

/-!
# The schedule of a run

On a clock that keeps time, with deliveries that take none, a run of a pacer has a closed form: its
ticks are evenly spaced up to the deadline, and each hands over of every queue exactly the events
between the reading of the tick before and its own. No rest is longer than the longest one, so ticks
are as far apart as the interval says or as the longest rest lasts, whichever is less.

* `Schedule` — evenly spaced ticks; `Schedule.count` — how many there are up to a deadline,
  `lt_count_iff` — which those are;
* `Queue.between`, `Queue.after` — the events of a queue from one bound to another, and the queue
  when those before a bound are handed over;
* `serve_prompt` — one tick; `Run.UpTo.toDeadline` — the ticks up to the deadline;
* `pace_onSchedule` — every run; `pace_offSchedule` — what puts a run off the schedule.
-/

set_option autoImplicit false

namespace ShopTraffic

/-! ## Events between two bounds -/

/-- Events in order are cut by a reading: those at the front that are due are all that are, and
those behind them are the others. -/
theorem TimeOrdered.cut {events : List Event} (h : TimeOrdered events) (now : Instant) :
    events.takeWhile (·.time < now) = events.filter (·.time.millis < now.millis) ∧
      events.dropWhile (·.time < now) = events.filter (now.millis ≤ ·.time.millis) := by
  have hsplit := List.takeWhile_append_dropWhile (p := fun e : Event => decide (e.time < now))
    (l := events)
  have hdue : ∀ e ∈ events.takeWhile (·.time < now), e.time.millis < now.millis := by
    intro e he
    have hlt : e.time < now := by simpa using List.mem_takeWhile_imp he
    exact hlt
  have hrest : ∀ e ∈ events.dropWhile (·.time < now), now.millis ≤ e.time.millis := fun e he =>
    Queue.not_lt_of_mem_dropWhile h he
  generalize events.takeWhile (·.time < now) = due at hsplit hdue ⊢
  generalize events.dropWhile (·.time < now) = rest at hsplit hrest ⊢
  rw [← hsplit, List.filter_append, List.filter_append]
  constructor
  · have hall : due.filter (·.time.millis < now.millis) = due :=
      List.filter_eq_self.2 fun e he => decide_eq_true (hdue e he)
    have hnone : rest.filter (·.time.millis < now.millis) = [] :=
      List.filter_eq_nil_iff.2 fun e he => by simpa using hrest e he
    rw [hall, hnone, List.append_nil]
  · have hnone : due.filter (now.millis ≤ ·.time.millis) = [] :=
      List.filter_eq_nil_iff.2 fun e he => by simpa using hdue e he
    have hall : rest.filter (now.millis ≤ ·.time.millis) = rest :=
      List.filter_eq_self.2 fun e he => decide_eq_true (hrest e he)
    rw [hnone, hall, List.nil_append]

namespace Queue

/-- The events from `m` on and before `n`. -/
def between (q : Queue) (m n : Nat) : List Event :=
  q.events.filter fun e => m ≤ e.time.millis ∧ e.time.millis < n

/-- The queue when its events before `n` are handed over. -/
def after (q : Queue) (n : Nat) : Queue :=
  { user := { q.user with sent := q.user.sent + (q.between 0 n).length }
    events := q.events.filter (n ≤ ·.time.millis) }

/-- The batch of the events from `m` up to the reading `now`, if there are any. -/
def batch? (q : Queue) (m : Nat) (now : Instant) (elapsed : Nat) : Option Batch :=
  if (q.between m now.millis).isEmpty then none
  else
    some
      { owner := some (q.after m).user
        events := q.between m now.millis
        cut := now
        elapsed
        moment := now }

/-- What is left over when the events before `n` are handed over, if there is anything. -/
def left? (q : Queue) (n : Nat) : Option Carried :=
  if (q.after n).events.isEmpty then none else some ⟨(q.after n).user, (q.after n).events⟩

variable {q : Queue} {m n : Nat}

@[simp] theorem after_zero (q : Queue) : q.after 0 = q := by
  unfold after between
  simp

theorem length_between_add (h : m ≤ n) :
    (q.between 0 m).length + (q.between m n).length = (q.between 0 n).length := by
  unfold between
  simp only [← List.countP_eq_length_filter]
  induction q.events with
  | nil => rfl
  | cons e rest ih =>
    simp only [List.countP_cons, decide_eq_true_eq]
    split_ifs <;> omega

theorem length_between_le (q : Queue) (m n : Nat) : (q.between m n).length ≤ q.events.length :=
  List.length_filter_le _ _

theorem after_ordered (h : TimeOrdered q.events) (m : Nat) : TimeOrdered (q.after m).events :=
  h.sublist List.filter_sublist

/-- Behind the bound `m` the events that are due at a later reading are those from `m` on. -/
theorem takeWhile_after (h : TimeOrdered q.events) (now : Instant) :
    (q.after m).events.takeWhile (·.time < now) = q.between m now.millis := by
  rw [((after_ordered h m).cut now).1]
  unfold after between
  rw [List.filter_filter]
  congr 1
  funext e
  simp only [Bool.decide_and, Bool.and_comm]

theorem dropWhile_after (h : TimeOrdered q.events) {now : Instant} (hm : m ≤ now.millis) :
    (q.after m).events.dropWhile (·.time < now) = (q.after now.millis).events := by
  rw [((after_ordered h m).cut now).2]
  unfold after
  rw [List.filter_filter]
  congr 1
  funext e
  simp only [Bool.and_eq_decide, decide_eq_true_eq, decide_eq_decide]
  omega

theorem recordSent_after (h : q.Countable) (hmn : m ≤ n) :
    (q.after m).user.recordSent (q.between m n).length = .ok (q.after n).user := by
  have hfits : q.user.sent + q.events.length ≤ q.user.total := h.fits
  have htotal := h.total_lt
  have hsplit := length_between_add (q := q) hmn
  have hle := q.length_between_le 0 n
  rw [User.recordSent_eq_ok_iff]
  unfold after
  simp only
  refine ⟨by omega, by omega, ?_⟩
  rw [Nat.add_assoc, hsplit]

/-- A queue without events between two bounds is the same behind both. -/
theorem after_eq_of_between_eq_nil (h : TimeOrdered q.events) {now : Instant} (hm : m ≤ now.millis)
    (hnone : q.between m now.millis = []) : q.after now.millis = q.after m := by
  have hsplit := length_between_add (q := q) hm
  have hdue := List.takeWhile_append_dropWhile (p := fun e : Event => decide (e.time < now))
    (l := (q.after m).events)
  rw [takeWhile_after h, dropWhile_after h hm, hnone, List.nil_append] at hdue
  rw [hnone, List.length_nil, Nat.add_zero] at hsplit
  unfold after at hdue ⊢
  rw [hsplit]
  congr 1

end Queue

/-! ## Schedules -/

/-- Evenly spaced ticks on a clock that keeps time. -/
structure Schedule where
  /-- What the clock shows at the first moment. -/
  origin : Instant
  /-- The moment of the first tick. -/
  first : Nat
  /-- How far ticks are apart. -/
  step : Nat

namespace Schedule

/-- The moment of tick `k`. -/
def moment (s : Schedule) (k : Nat) : Nat := s.first + k * s.step

/-- What the clock shows at tick `k`. -/
def reading (s : Schedule) (k : Nat) : Nat := s.origin.millis + s.moment k

/-- How many ticks there are up to a deadline. -/
def count (s : Schedule) (deadline : Nat) : Nat :=
  if s.reading 0 ≤ deadline then (deadline - s.reading 0) / s.step + 1 else 0

/-- Where the events of tick `k` begin: those of the first tick at the start of all times, those of
another one at the reading of the tick before. -/
def bound (s : Schedule) : Nat → Nat
  | 0 => 0
  | k + 1 => s.reading k

/-- The batches of tick `k`, queue by queue. -/
def batches (s : Schedule) (queues : List Queue) (k : Nat) : List Batch :=
  queues.filterMap fun q => q.batch? (s.bound k) (.cap (s.reading k)) (s.moment k)

variable {s : Schedule} {deadline k : Nat}

theorem moment_succ (s : Schedule) (k : Nat) : s.moment (k + 1) = s.moment k + s.step := by
  unfold moment
  rw [Nat.succ_mul, Nat.add_assoc]

theorem bound_le (s : Schedule) (k : Nat) : s.bound k ≤ s.reading k := by
  cases k with
  | zero => exact Nat.zero_le _
  | succ k =>
    show s.reading k ≤ s.reading (k + 1)
    unfold reading
    rw [moment_succ]
    omega

/-- The ticks up to a deadline are those that read no more than it. -/
theorem lt_count_iff (hstep : 0 < s.step) : k < s.count deadline ↔ s.reading k ≤ deadline := by
  have hk : s.reading k = s.reading 0 + k * s.step := by
    unfold reading moment
    omega
  unfold count
  split
  · rw [Nat.lt_succ_iff, Nat.le_div_iff_mul_le hstep]
    omega
  · omega

theorem reading_lt (hstep : 0 < s.step) (hlast : deadline < 0xFFFFFFFFFFFFFFFF)
    (hk : k < s.count deadline) : (Instant.cap (s.reading k)).millis = s.reading k := by
  have hle := (lt_count_iff hstep).1 hk
  rw [Instant.millis_cap]
  omega

end Schedule

/-- A run that has made the first `k` ticks of a schedule. -/
structure Run.UpTo (r : Run) (s : Schedule) (queues : List Queue) (k : Nat) : Prop where
  unbroken : r.broken = none
  elapsed : r.elapsed = s.moment k
  ticks : r.ticks.toList = (List.range k).map s.moment
  batches : r.batches.toList = (List.range k).flatMap (s.batches queues)
  queues : r.queues = queues.map (·.after (s.bound k))

/-- A run that keeps a schedule up to a deadline. -/
structure Run.OnSchedule (r : Run) (s : Schedule) (queues : List Queue) (deadline : Nat) :
    Prop where
  unbroken : r.broken = none
  ticks : r.ticks.toList = (List.range (s.count deadline)).map s.moment
  batches : r.batches.toList = (List.range (s.count deadline)).flatMap (s.batches queues)
  left : leftovers r.queues = queues.filterMap (·.left? (s.bound (s.count deadline)))
  /-- Where the first tick would be past the deadline nothing is touched. -/
  late : deadline < s.reading 0 → r.ticks = #[] ∧ r.batches = #[] ∧ r.queues = queues

/-! ## One tick -/

section Prompt

variable {sink : Sink} {interval : Interval} {queues : List Queue}

/-- **A tick that takes no time** hands over of every queue the events up to its reading. -/
theorem serve_prompt (hlatency : ∀ b, sink.latency b = 0) (hcrash : ∀ b, sink.crash? b = none)
    {clock : Clock} {now : Instant} {elapsed m : Nat} (hread : clock.read elapsed = now)
    (hm : m ≤ now.millis) (hordered : ∀ q ∈ queues, TimeOrdered q.events)
    (hcountable : ∀ q ∈ queues, q.Countable) :
    serve sink clock now (queues.map (·.after m)) elapsed =
      { queues := queues.map (·.after now.millis)
        batches := queues.filterMap (·.batch? m now elapsed)
        elapsed } := by
  induction queues with
  | nil => rfl
  | cons q rest ih =>
    obtain ⟨hq, hordered⟩ := List.forall_mem_cons.1 hordered
    obtain ⟨hcounts, hcountable⟩ := List.forall_mem_cons.1 hcountable
    have hrest := ih hordered hcountable
    rw [List.map_cons, List.map_cons, List.filterMap_cons]
    unfold serve
    simp only [Queue.takeWhile_after hq, Queue.dropWhile_after hq hm, hlatency, hcrash,
      Queue.recordSent_after hcounts hm, Nat.add_zero, hrest, hread]
    split
    · rename_i hnone
      have hsame := Queue.after_eq_of_between_eq_nil hq hm (List.isEmpty_iff.1 hnone)
      simp only [Queue.batch?, if_pos hnone, hsame]
    · rename_i hsome
      simp only [Queue.batch?, if_neg hsome]

/-! ## A whole run -/

/-- **A tick in time** is the next one of the schedule. -/
theorem Run.UpTo.step (hlatency : ∀ b, sink.latency b = 0) (hcrash : ∀ b, sink.crash? b = none)
    (hordered : ∀ q ∈ queues, TimeOrdered q.events) (hcountable : ∀ q ∈ queues, q.Countable)
    {s : Schedule} (hstep : s.step = restOf interval.millis) {r : Run} {k : Nat}
    (h : r.UpTo s queues k) (hreading : (Instant.cap (s.reading k)).millis = s.reading k) :
    (r.step sink (.startingAt s.origin) interval).UpTo s queues (k + 1) := by
  have hread : (Clock.startingAt s.origin).read (s.moment k) = .cap (s.reading k) := rfl
  have hbound : s.bound k ≤ (Instant.cap (s.reading k)).millis := by
    rw [hreading]
    exact s.bound_le k
  have hserve := serve_prompt hlatency hcrash hread hbound hordered hcountable
  unfold Run.step
  simp only [h.elapsed, h.queues, hread, hserve]
  constructor
  · rfl
  · show s.moment k + restOf (s.moment k + interval.millis - s.moment k) = s.moment (k + 1)
    rw [Nat.add_sub_cancel_left, ← hstep, s.moment_succ]
  · simp [List.range_succ, h.ticks]
  · simp [List.range_succ, h.batches, Schedule.batches]
  · rw [hreading]
    rfl

/-- **The ticks up to the deadline** are those of the schedule. -/
theorem Run.UpTo.toDeadline (hlatency : ∀ b, sink.latency b = 0)
    (hcrash : ∀ b, sink.crash? b = none) (hordered : ∀ q ∈ queues, TimeOrdered q.events)
    (hcountable : ∀ q ∈ queues, q.Countable) {s : Schedule}
    (hstep : s.step = restOf interval.millis) {deadline : Instant}
    (hlast : deadline.millis < 0xFFFFFFFFFFFFFFFF) {r : Run} {k : Nat} (h : r.UpTo s queues k)
    (hk : k ≤ s.count deadline.millis) :
    (Run.toDeadline sink (.startingAt s.origin) interval deadline r).UpTo s queues
      (s.count deadline.millis) := by
  have hpos : 0 < s.step := by
    rw [hstep]
    exact restOf_pos interval.positive
  -- A tick begins exactly while there are ticks left on the schedule.
  have hgoes_iff : ∀ {r : Run} {k : Nat}, r.UpTo s queues k →
      (r.elapsed < (Clock.startingAt s.origin).horizon deadline ∧
        (Clock.startingAt s.origin).read r.elapsed ≤ deadline ↔ k < s.count deadline.millis) := by
    intro r k h
    rw [Schedule.lt_count_iff hpos, h.elapsed]
    unfold Clock.startingAt Schedule.reading
    simp only [Instant.le_def, Instant.millis_plus]
    omega
  fun_induction Run.toDeadline sink (.startingAt s.origin) interval deadline r generalizing k with
  | case1 r hgoes next hnext =>
    rename_i ih
    have hlt := (hgoes_iff h).1 hgoes
    exact ih (h.step hlatency hcrash hordered hcountable hstep (Schedule.reading_lt hpos hlast hlt))
      hlt
  | case2 r hgoes next =>
    rename_i hnext
    have hlt := (hgoes_iff h).1 hgoes
    have hafter := h.step hlatency hcrash hordered hcountable hstep
      (Schedule.reading_lt hpos hlast hlt)
    exact absurd hafter.unbroken hnext
  | case3 r hover =>
    have hnot := mt (hgoes_iff h).2 hover
    obtain rfl : k = s.count deadline.millis := by omega
    exact h

/-- A run that made all ticks of the schedule up to a deadline kept it. -/
theorem Run.UpTo.onSchedule {s : Schedule} {deadline : Nat} {r : Run}
    (h : r.UpTo s queues (s.count deadline)) : r.OnSchedule s queues deadline := by
  constructor
  · exact h.unbroken
  · exact h.ticks
  · exact h.batches
  · rw [h.queues]
    unfold leftovers
    rw [List.filterMap_map]
    rfl
  · intro hlate
    have hnone : s.count deadline = 0 := by
      unfold Schedule.count
      rw [if_neg (by omega)]
    have hticks := h.ticks
    have hbatches := h.batches
    have hqueues := h.queues
    rw [hnone] at hticks hbatches hqueues
    refine ⟨Array.toList_eq_nil_iff.1 hticks, Array.toList_eq_nil_iff.1 hbatches, ?_⟩
    rw [hqueues]
    unfold Schedule.bound
    simp

/-- A run begins with the first tick of the schedule still to come. -/
theorem Run.upTo_zero (s : Schedule) (queues : List Queue) :
    Run.UpTo { queues, elapsed := s.first } s queues 0 := by
  constructor
  · rfl
  · simp [Schedule.moment]
  · rfl
  · rfl
  · simp [Schedule.bound]

/-- A run makes all ticks of its schedule up to the deadline. -/
theorem pace_upTo (hlatency : ∀ b, sink.latency b = 0) (hcrash : ∀ b, sink.crash? b = none)
    (hordered : ∀ q ∈ queues, TimeOrdered q.events) (hcountable : ∀ q ∈ queues, q.Countable)
    (interval : Interval) (origin : Instant) (start grace : Nat) {finish : Instant}
    (hlast : finish.millis + grace < 0xFFFFFFFFFFFFFFFF) :
    (pace sink (.startingAt origin) interval grace finish queues start).UpTo
      ⟨origin, start, restOf interval.millis⟩ queues
      (Schedule.count ⟨origin, start, restOf interval.millis⟩ (finish.millis + grace)) := by
  have hdeadline : (finish.plus grace).millis = finish.millis + grace := by
    rw [Instant.millis_plus]
    omega
  have hbegins := Run.upTo_zero ⟨origin, start, restOf interval.millis⟩ queues
  rw [← hdeadline] at hlast ⊢
  exact hbegins.toDeadline hlatency hcrash hordered hcountable rfl hlast (Nat.zero_le _)

/-- **Every run keeps its schedule**: with deliveries that take no time and do not break off, queues
in order whose users' windows hold them, and a deadline before the last instant, the ticks are as
far apart as the interval says or as the longest rest lasts, whichever is less. -/
theorem pace_onSchedule (hlatency : ∀ b, sink.latency b = 0) (hcrash : ∀ b, sink.crash? b = none)
    (hordered : ∀ q ∈ queues, TimeOrdered q.events) (hcountable : ∀ q ∈ queues, q.Countable)
    (interval : Interval) (origin : Instant) (start grace : Nat) {finish : Instant}
    (hlast : finish.millis + grace < 0xFFFFFFFFFFFFFFFF) :
    (pace sink (.startingAt origin) interval grace finish queues start).OnSchedule
      ⟨origin, start, restOf interval.millis⟩ queues (finish.millis + grace) := by
  have hends := pace_upTo hlatency hcrash hordered hcountable interval origin start grace hlast
  exact hends.onSchedule

end Prompt

/-! ## Runs on fixed queues -/

/-- A queue of page views of one user, whose window begins with it. -/
def Queue.ofTimes (number : Nat) (times : List Instant) : Queue :=
  { user :=
      User.beginWindow ⟨.ofNat number, .web,
        ⟨"Mozilla", "Firefox", "121.0", 1536, 864, "en_US", "1.1.1.1"⟩, 0, .zero, 0, 0, 0⟩
        times.length
    events := times.map (⟨"page_view", ·, []⟩) }

theorem Queue.countable_ofTimes {number : Nat} {times : List Instant}
    (h : times.length < 0x10000000000000000) : (ofTimes number times).Countable := by
  constructor
  · unfold ofTimes Fits User.beginWindow
    simp
  · exact h

theorem pace_onSchedule_threeTicks :
    (pace .accepting (.startingAt ⟨10, by decide⟩) { millis := 20 } 5 ⟨50, by decide⟩
        [.ofTimes 1 [⟨5, by decide⟩, ⟨30, by decide⟩], .ofTimes 2 [⟨50, by decide⟩]] 0).OnSchedule
      ⟨⟨10, by decide⟩, 0, restOf 20⟩
      [.ofTimes 1 [⟨5, by decide⟩, ⟨30, by decide⟩], .ofTimes 2 [⟨50, by decide⟩]] 55 ∧
    (Schedule.mk ⟨10, by decide⟩ 0 (restOf 20)).count 55 = 3 := by
  refine ⟨pace_onSchedule (fun _ => rfl) (fun _ => rfl) ?_ ?_ _ ⟨10, by decide⟩ 0 5 (by decide),
    by decide⟩
  · simp [Queue.ofTimes, TimeOrdered, Instant.le_def]
  · intro q hq
    rcases List.mem_cons.1 hq with rfl | hq
    · exact Queue.countable_ofTimes (by decide)
    · rw [List.mem_singleton.1 hq]
      exact Queue.countable_ofTimes (by decide)

/-- A run whose tick breaks off ends there. -/
theorem Run.toDeadline_of_broken {sink : Sink} {clock : Clock} {interval : Interval}
    {deadline : Instant} {r : Run}
    (hgoes : r.elapsed < clock.horizon deadline ∧ clock.read r.elapsed ≤ deadline)
    (h : (r.step sink clock interval).broken ≠ none) :
    toDeadline sink clock interval deadline r = r.step sink clock interval := by
  rw [toDeadline, if_pos hgoes]
  exact dif_neg h

/-- A queue of two events that are decades apart. -/
def Queue.apart : List Queue := [.ofTimes 1 [⟨5, by decide⟩, ⟨1500000000000, by decide⟩]]

/-- The second tick comes when the longest rest is over, not when the interval is. -/
theorem ticks_apart : (pace .accepting (.startingAt .zero) { millis := 1000000000000 } 0
    ⟨2000000000000, by decide⟩ Queue.apart 0).ticks.toList = [0, 946080000000, 1892160000000] := by
  have hends : (pace .accepting (.startingAt .zero) { millis := 1000000000000 } 0
      ⟨2000000000000, by decide⟩ Queue.apart 0).UpTo ⟨.zero, 0, restOf 1000000000000⟩ Queue.apart
      (Schedule.count ⟨.zero, 0, restOf 1000000000000⟩ (2000000000000 + 0)) := by
    refine pace_upTo (fun _ => rfl) (fun _ => rfl) ?_ ?_ _ .zero 0 0 (by decide)
    · simp [Queue.apart, Queue.ofTimes, TimeOrdered, Instant.le_def]
    · exact List.forall_mem_singleton.2 (Queue.countable_ofTimes (by decide))
  exact hends.ticks.trans (by decide)

/-- **What puts a run off the schedule** of its interval: an interval longer than the longest rest,
a user whose window does not hold the queue, a sink that breaks off. -/
theorem pace_offSchedule :
    ¬ (pace .accepting (.startingAt .zero) { millis := 1000000000000 } 0
        ⟨2000000000000, by decide⟩ Queue.apart 0).OnSchedule ⟨.zero, 0, 1000000000000⟩ Queue.apart
        2000000000000 ∧
      ¬ (pace .accepting (.startingAt ⟨10, by decide⟩) { millis := 20 } 0 ⟨50, by decide⟩
        [{ Queue.ofTimes 1 [] with events := [⟨"page_view", ⟨5, by decide⟩, []⟩] }] 0).OnSchedule
        ⟨⟨10, by decide⟩, 0, 20⟩
        [{ Queue.ofTimes 1 [] with events := [⟨"page_view", ⟨5, by decide⟩, []⟩] }] 50 ∧
      ¬ (pace { crash? := fun _ => some .addOverflow } (.startingAt ⟨10, by decide⟩)
        { millis := 20 } 0 ⟨50, by decide⟩ [.ofTimes 1 [⟨5, by decide⟩]] 0).OnSchedule
        ⟨⟨10, by decide⟩, 0, 20⟩ [.ofTimes 1 [⟨5, by decide⟩]] 50 := by
  refine ⟨fun h => ?_, fun h => ?_, fun h => ?_⟩
  · have hticks := ticks_apart.symm.trans h.ticks
    revert hticks
    decide
  · have hunbroken := h.unbroken
    unfold pace at hunbroken
    rw [Run.toDeadline_of_broken (by decide) (by decide)] at hunbroken
    revert hunbroken
    decide
  · have hunbroken := h.unbroken
    unfold pace at hunbroken
    rw [Run.toDeadline_of_broken (by decide) (by decide)] at hunbroken
    revert hunbroken
    decide

end ShopTraffic
