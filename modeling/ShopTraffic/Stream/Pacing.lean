import ShopTraffic.Stream.Build
import ShopTraffic.Stream.Delivery
import ShopTraffic.Time.Timer

/-!
# Pacing

A pacer releases the events of its queues as the clock reaches them. On each tick it reads the clock
once and hands over, queue by queue, the events that lie before the reading as one batch; then it
rests for what is left of the interval. It stops when a tick would begin past the deadline.

* `serve` — one tick;
* `Run`, `pace` — a whole run: its ticks, the batches in the order they were handed over, the queues
  as they are left, and how it broke off, if it did;
* `Run.attempts` — the batches with what became of them.
-/

namespace ShopTraffic

/-- The interval of ticks in milliseconds. -/
structure Interval where
  millis : Nat
  positive : 0 < millis := by decide
  deriving DecidableEq, Repr

/-- How a run broke off on its last batch. -/
structure Breakdown where
  crash : Crash
  /-- The sink had answered the batch. -/
  answered : Bool
  deriving DecidableEq, Repr

/-- What a tick has done so far. -/
structure Tick where
  queues : List Queue
  batches : List Batch
  elapsed : Nat
  broken : Option Breakdown := none
  deriving Repr

/-- Serves the queues of one tick in order, with the events before `now`. -/
def serve (sink : Sink) (clock : Clock) (now : Instant) : List Queue → (elapsed : Nat) → Tick
  | [], elapsed => { queues := [], batches := [], elapsed }
  | q :: rest, elapsed =>
    let due := q.events.takeWhile (·.time < now)
    if due.isEmpty then
      let tick := serve sink clock now rest elapsed
      { tick with queues := q :: tick.queues }
    else
      let batch : Batch :=
        { owner := some q.user, events := due, cut := now, elapsed, moment := clock.read elapsed }
      let left : Queue := { q with events := q.events.dropWhile (·.time < now) }
      let elapsed := elapsed + sink.latency batch
      match sink.crash? batch with
      | some crash =>
        { queues := left :: rest, batches := [batch], elapsed, broken := some ⟨crash, false⟩ }
      | none =>
        match q.user.recordSent due.length with
        | .error crash =>
          { queues := left :: rest, batches := [batch], elapsed, broken := some ⟨crash, true⟩ }
        | .ok user =>
          let tick := serve sink clock now rest elapsed
          { tick with queues := { left with user } :: tick.queues, batches := batch :: tick.batches }

theorem serve_elapsed_le (sink : Sink) (clock : Clock) (now : Instant) (queues : List Queue)
    (elapsed : Nat) : elapsed ≤ (serve sink clock now queues elapsed).elapsed := by
  induction queues generalizing elapsed with
  | nil => exact Nat.le_refl _
  | cons q rest ih =>
    unfold serve
    simp only
    split
    · exact ih elapsed
    · split
      · simp
      · split
        · simp
        · exact Nat.le_trans (Nat.le_add_right _ _) (ih _)

/-- A batch that was handed over. -/
structure Attempt where
  batch : Batch
  /-- The sink answered. -/
  answered : Bool
  /-- The events were recorded as sent. -/
  recorded : Bool
  deriving Repr

/-- A run of a pacer up to some moment. -/
structure Run where
  queues : List Queue
  elapsed : Nat
  /-- The moments of the ticks. -/
  ticks : Array Nat := #[]
  /-- The batches in the order they were handed over. -/
  batches : Array Batch := #[]
  broken : Option Breakdown := none
  deriving Repr

namespace Run

/-- The batches with what became of them: all were answered and recorded but one that broke off. -/
def attempts (r : Run) : List Attempt :=
  match r.broken with
  | none => r.batches.toList.map (⟨·, true, true⟩)
  | some breakdown =>
    r.batches.toList.dropLast.map (⟨·, true, true⟩) ++
      r.batches.toList.getLast?.toList.map (⟨·, breakdown.answered, false⟩)

/-- The run after one tick more. -/
def step (r : Run) (sink : Sink) (clock : Clock) (interval : Interval) : Run :=
  let tick := serve sink clock (clock.read r.elapsed) r.queues r.elapsed
  { queues := tick.queues
    elapsed := if tick.broken.isSome then tick.elapsed
      else tick.elapsed + restOf (r.elapsed + interval.millis - tick.elapsed)
    ticks := r.ticks.push r.elapsed
    batches := r.batches ++ tick.batches
    broken := tick.broken }

theorem lt_elapsed_step (r : Run) (sink : Sink) (clock : Clock) (interval : Interval)
    (h : (r.step sink clock interval).broken = none) :
    r.elapsed < (r.step sink clock interval).elapsed := by
  have hle := serve_elapsed_le sink clock (clock.read r.elapsed) r.queues r.elapsed
  have := interval.positive
  simp only [step] at h
  simp only [step, h, Option.isSome_none, Bool.false_eq_true, if_false]
  rcases Nat.lt_or_eq_of_le hle with hlt | heq
  · omega
  · have := @restOf_pos (r.elapsed + interval.millis -
      (serve sink clock (clock.read r.elapsed) r.queues r.elapsed).elapsed) (by omega)
    omega

/-- Ticks until one would begin past the deadline or a batch breaks off. -/
def toDeadline (sink : Sink) (clock : Clock) (interval : Interval) (deadline : Instant) (r : Run) :
    Run :=
  if r.elapsed < clock.horizon deadline ∧ clock.read r.elapsed ≤ deadline then
    let next := r.step sink clock interval
    if _h : next.broken = none then toDeadline sink clock interval deadline next else next
  else r
termination_by clock.horizon deadline - r.elapsed
decreasing_by
  have := lt_elapsed_step r sink clock interval _h
  omega

end Run

/-- Paces queues from a moment on until the clock is past `finish` and a grace period. -/
def pace (sink : Sink) (clock : Clock) (interval : Interval) (grace : Nat) (finish : Instant)
    (queues : List Queue) (elapsed : Nat) : Run :=
  Run.toDeadline sink clock interval (finish.plus grace) { queues, elapsed }

/-- No batch goes missing among the attempts. -/
theorem Run.batch_attempts (r : Run) : r.attempts.map (·.batch) = r.batches.toList := by
  unfold Run.attempts
  split
  · simp [List.map_map, Function.comp_def]
  · rcases List.eq_nil_or_concat r.batches.toList with h | ⟨l, b, h⟩ <;>
      simp [h, List.map_map, Function.comp_def]

end ShopTraffic
