import ShopTraffic.Event
import ShopTraffic.Total
import ShopTraffic.User

/-!
# Deliveries

A batch of events is handed to a sink at a moment of a clock. The sink takes some time and then
answers, or breaks off. Its answer may depend on the number the batch was sent under; nothing else
that a batch meets does.

* `Clock` — a reading for every moment; `Clock.startingAt` advances evenly from an origin;
* `Batch` — the events of one delivery and where they were handed over;
* `Sink` — how long a delivery takes and how it ends.
-/

namespace ShopTraffic

/-- What a clock shows at each moment, counted in milliseconds that have gone by. -/
structure Clock where
  read : Nat → Instant
  /-- A moment by which the clock is taken to be past an instant. -/
  horizon : Instant → Nat

/-- A clock that shows `origin` at the first moment and keeps time. -/
def Clock.startingAt (origin : Instant) : Clock :=
  { read := origin.plus, horizon := fun t => t.millis + 1 - origin.millis }

/-- Events on their way to a sink. -/
structure Batch where
  /-- The user all events belong to; none for events of many users. -/
  owner : Option User
  events : List Event
  /-- The reading of the clock when the batch was cut from its queue. -/
  cut : Instant
  /-- When the batch was handed over. -/
  elapsed : Nat
  /-- The reading of the clock when the batch was handed over. -/
  moment : Instant
  deriving Repr

/-- Whether a batch holds the events of a user. -/
def Batch.isFor (b : Batch) (id : UserId) : Bool := b.owner.any (·.id = id)

/-- What a sink reports about a delivery that failed. -/
inductive DeliveryError where
  | request (text : String)
  | status (code : Nat)
  | encoding (text : String)
  deriving DecidableEq, Repr

def DeliveryError.message : DeliveryError → String
  | .request text => s!"Request failed: {text}"
  | .status code => s!"Sink returned status {code}"
  | .encoding text => s!"Payload encoding failed: {text}"

/-- The far end of deliveries. -/
structure Sink where
  /-- How many milliseconds a delivery takes. -/
  latency : Batch → Nat := fun _ => 0
  /-- How a delivery breaks off, if it does. -/
  crash? : Batch → Option Crash := fun _ => none
  /-- The answer to a batch sent under a number. -/
  answer : Nat → Batch → Except DeliveryError Unit := fun _ _ => .ok ()
  /-- Whether the sink writes every batch to the log. -/
  logs : Bool := false

/-- A sink that accepts everything at once. -/
def Sink.accepting : Sink := {}

/-- A sink that refuses everything. -/
def Sink.unavailable : Sink := { answer := fun _ _ => .error (.status 503) }

/-- A sink that accepts everything and only writes it to the log. -/
def Sink.logging : Sink := { logs := true }

/-- A batch sent under a number. -/
structure Sent where
  number : Nat
  batch : Batch
  deriving Repr

/-- Numbers batches in order, the first one after `issued`. -/
def numberFrom (issued : Nat) (batches : List Batch) : List Sent :=
  batches.zipIdx.map fun (batch, i) => ⟨issued + 1 + i, batch⟩

@[simp] theorem length_numberFrom (issued : Nat) (batches : List Batch) :
    (numberFrom issued batches).length = batches.length := by simp [numberFrom]

/-- The total number of events of some batches. -/
def eventCount (batches : List Batch) : Nat := totalOf (·.events.length) batches

end ShopTraffic
