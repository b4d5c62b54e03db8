import ShopTraffic.Notice
import ShopTraffic.Stream.Pacing
import ShopTraffic.Stream.Report

/-!
# Booking deliveries

Batches take their numbers in the order they are handed over. The sink's answer is looked up under
the number; it decides a notice and the count of failures and nothing else.

* `Books` — the numbers taken, the counts and the lags of a stream;
* `Books.enter` — one batch entered; `Books.enterAll` — batches in order.
-/

namespace ShopTraffic

/-- A batch handed over by a shard. -/
structure ShardAttempt where
  shard : ShardId
  attempt : Attempt
  deriving Repr

/-- What is written down about deliveries. -/
structure Books where
  /-- Numbers taken so far. -/
  issued : Nat := 0
  counts : Counts := {}
  lag : Lag := {}
  /-- The batches under their numbers, in order. -/
  sent : Array Sent := #[]
  notices : Array Notice := #[]
  deriving Repr

namespace Books

/-- The batches handed over, in order. -/
def batches (b : Books) : List Batch := b.sent.toList.map (·.batch)

/-- The notice of an answered batch. -/
def outcomeNotice (shard : ShardId) (batch : Batch) (answer : Except DeliveryError Unit) :
    List Notice :=
  match batch.owner with
  | none => []
  | some user =>
    match answer with
    | .ok () => [.delivered shard user.id batch.events.length]
    | .error cause =>
      [.deliveryFailed shard user.id batch.events.length
        ((batch.events.head?.map (·.time)).getD .zero) cause]

/-- Enters a batch under the next number. -/
def enter (sink : Sink) (every : Nat) (b : Books) (a : ShardAttempt) : Books :=
  let number := b.issued + 1
  let batch := a.attempt.batch
  let answer := sink.answer number batch
  let failed := a.attempt.answered && answer matches .error _
  let counts :=
    { b.counts with failedDeliveries := b.counts.failedDeliveries + failed.toNat }
  let notices := b.notices ++ progressNotice every number ++
    if a.attempt.answered then sink.notices batch ++ outcomeNotice a.shard batch answer else []
  let entered :=
    { b with issued := number, counts, notices, sent := b.sent.push ⟨number, batch⟩ }
  if a.attempt.recorded then
    { entered with
      counts :=
        { counts with
          deliveries := counts.deliveries + 1
          sent := counts.sent + batch.events.length }
      lag := b.lag.record batch.cut batch.events }
  else entered

/-- Enters batches in order. -/
def enterAll (sink : Sink) (every : Nat) (b : Books) (as : List ShardAttempt) : Books :=
  as.foldl (enter sink every) b

@[simp] theorem issued_enter (sink : Sink) (every : Nat) (b : Books) (a : ShardAttempt) :
    (b.enter sink every a).issued = b.issued + 1 := by
  unfold enter; simp only; split <;> rfl

theorem issued_enterAll (sink : Sink) (every : Nat) (b : Books) (as : List ShardAttempt) :
    (b.enterAll sink every as).issued = b.issued + as.length := by
  unfold enterAll
  induction as generalizing b with
  | nil => rfl
  | cons a rest ih => rw [List.foldl_cons, ih, issued_enter, List.length_cons]; omega

/-- Takes the notices and the batches out of the books. -/
def clear (b : Books) : Books := { b with sent := #[], notices := #[] }

end Books

/-- The notice of a run that left events over. -/
def Run.deadlineNotice (shard : ShardId) (r : Run) : List Notice :=
  match leftovers r.queues with
  | [] => []
  | left => [.deadlinePassed shard left.length (carriedCount left)]

/-- Books a whole run of one shard. -/
def Run.book (r : Run) (sink : Sink) (every : Nat) (shard : ShardId) (b : Books) : Books :=
  let b := b.enterAll sink every (r.attempts.map (⟨shard, ·⟩))
  if r.broken.isSome then b
  else
    { b with
      counts := { b.counts with ticks := b.counts.ticks + r.ticks.size }
      notices := b.notices ++ r.deadlineNotice shard }

end ShopTraffic
