import ShopTraffic.Generator
import ShopTraffic.Stream.Delivery
import ShopTraffic.Time.Calendar

/-!
# Notices

What the library reports while it works, as values. A notice is written on one line: its level, a
message, and named values.

* `Notice` — the kinds of notices;
* `Notice.line` — the line of a notice;
* `progressNotice` — the notice due when a delivery number is taken.
-/

namespace ShopTraffic

/-- How much attention a notice asks for. -/
inductive Level where
  | debug
  | info
  | warn
  | error
  deriving DecidableEq, Repr

def Level.name : Level → String
  | .debug => "DEBUG"
  | .info => "INFO"
  | .warn => "WARN"
  | .error => "ERROR"

/-- Something worth reporting. -/
inductive Notice where
  | poolGenerated (users : Nat)
  | usersAcquired (day : Day) (users : Nat)
  | activeDrawn (day : Day) (users : Nat)
  | progress (deliveries : Nat)
  | streamStarted (shards windowSeconds pollSeconds graceSeconds users : Nat)
  | fellBehind (window : WindowIndex) (millis : Nat)
  | shardBuilt (window : WindowIndex) (users events carried : Nat)
  | carryDispatched (window : WindowIndex) (users : Nat)
  | delivered (shard : ShardId) (user : UserId) (events : Nat)
  | deliveryFailed (shard : ShardId) (user : UserId) (events : Nat) (first : Instant)
      (cause : DeliveryError)
  | deliveryLogged (user : Option UserId) (events : Nat) (first : Option Instant)
  | deadlinePassed (shard : ShardId) (users events : Nat)
  | carriedTwice (user : UserId)
  | buildFailed (window : WindowIndex) (shard : ShardId) (users returned : Nat)
      (cause : GenerationError)
  | buildCrashed (window : WindowIndex) (shard : ShardId) (users lost : Nat)
  | shardCrashed (window : WindowIndex)
  | shardLost (window : WindowIndex) (shard : ShardId) (users lost : Nat)
  | windowComplete (window : WindowIndex) (start : Instant)
      (population users events carriedIn carriedOut failedShards : Nat)
  | dayStarted (day : Day) (active pool : Nat)
  | sessionFailed (day : Day) (user : UserId) (cause : GenerationError)
  | bufferFlushed (day : Day) (users left : Nat)
  | bulkFailed (events : Nat) (cause : DeliveryError)
  | dayDelivered (day : Day) (events : Nat)
  | backfillFinished (days events deliveries : Nat)
  | onlyLogging
  deriving Repr

namespace Notice

def level : Notice → Level
  | .shardBuilt .. | .delivered .. => .debug
  | .fellBehind .. | .deliveryFailed .. | .carriedTwice .. | .bulkFailed .. => .warn
  | .buildFailed .. | .buildCrashed .. | .shardCrashed .. | .shardLost .. | .sessionFailed .. =>
    .error
  | _ => .info

def message : Notice → String
  | .poolGenerated .. => "Generated user pool"
  | .usersAcquired .. => "Acquired new users"
  | .activeDrawn .. => "Sampled daily active users"
  | .progress .. => "Delivery progress"
  | .streamStarted .. => "Starting streamer"
  | .fellBehind .. => "Fell behind by more than a window, restarting at now"
  | .shardBuilt .. => "Built shard workload"
  | .carryDispatched .. => "Dispatching carry-forward task"
  | .delivered .. => "Delivered events"
  | .deliveryFailed .. => "Delivery failed"
  | .deliveryLogged .. => "Dry run delivery"
  | .deadlinePassed .. => "Grace deadline passed with undelivered events"
  | .carriedTwice .. => "User carried from two shards"
  | .buildFailed .. => "Shard task failed, carried events returned"
  | .buildCrashed .. => "Shard build panicked"
  | .shardCrashed .. => "Shard task panicked"
  | .shardLost .. => "Shard task lost with its carried events"
  | .windowComplete .. => "Window complete"
  | .dayStarted .. => "Starting day"
  | .sessionFailed .. => "Session generation failed"
  | .bufferFlushed .. => "Flushing buffered events"
  | .bulkFailed .. => "Bulk delivery failed"
  | .dayDelivered .. => "Day delivered"
  | .backfillFinished .. => "Backfill finished"
  | .onlyLogging => "Dry run: batches are logged, not sent"

/-- An instant as the form used to inspect values shows it. -/
def inspectInstant : Option Instant → String
  | some t => s!"Some(Timestamp({t.millis}))"
  | none => "None"

/-- The named values of a notice in order. -/
def fields : Notice → List (String × String)
  | .poolGenerated users => [("users", toString users)]
  | .usersAcquired day users => [("day", day.text), ("users", toString users)]
  | .activeDrawn day users => [("day", day.text), ("dau", toString users)]
  | .progress deliveries => [("requests", toString deliveries)]
  | .streamStarted shards windowSeconds pollSeconds graceSeconds users =>
    [("shards", toString shards), ("window_secs", toString windowSeconds),
      ("poll_secs", toString pollSeconds), ("grace_secs", toString graceSeconds),
      ("users", toString users)]
  | .fellBehind window millis => [("window", window.text), ("behind_ms", toString millis)]
  | .shardBuilt window users events carried =>
    [("window", window.text), ("users", toString users), ("events", toString events),
      ("carried", toString carried)]
  | .carryDispatched window users => [("window", window.text), ("users", toString users)]
  | .delivered shard user events =>
    [("shard", shard.text), ("user", user.hex), ("events", toString events)]
  | .deliveryFailed shard user events first cause =>
    [("shard", shard.text), ("user", user.hex), ("events", toString events),
      ("first_timestamp", first.text), ("error", cause.message)]
  | .deliveryLogged user events first =>
    [("user", (user.map UserId.short).getD "bulk"), ("events", toString events),
      ("first", inspectInstant first)]
  | .deadlinePassed shard users events =>
    [("shard", shard.text), ("users", toString users), ("events", toString events)]
  | .carriedTwice user => [("user", user.hex)]
  | .buildFailed window shard users returned cause =>
    [("window", window.text), ("shard", shard.text), ("users", toString users),
      ("returned_events", toString returned), ("error", cause.message)]
  | .buildCrashed window shard users lost | .shardLost window shard users lost =>
    [("window", window.text), ("shard", shard.text), ("users", toString users),
      ("lost_events", toString lost)]
  | .shardCrashed window => [("window", window.text)]
  | .windowComplete window start population users events carriedIn carriedOut failedShards =>
    [("window", window.text), ("start", start.text), ("population", toString population),
      ("users", toString users), ("events", toString events),
      ("carried_in", toString carriedIn), ("carried_out", toString carriedOut),
      ("failed_shards", toString failedShards)]
  | .dayStarted day active pool =>
    [("day", day.text), ("dau", toString active), ("pool", toString pool)]
  | .sessionFailed day user cause =>
    [("day", day.text), ("user", user.hex), ("error", cause.message)]
  | .bufferFlushed day users left =>
    [("day", day.text), ("users", toString users), ("left", toString left)]
  | .bulkFailed events cause => [("events", toString events), ("error", cause.message)]
  | .dayDelivered day events => [("day", day.text), ("events", toString events)]
  | .backfillFinished days events deliveries =>
    [("days", toString days), ("events", toString events), ("deliveries", toString deliveries)]
  | .onlyLogging => []

/-- The line of a notice. -/
def line (n : Notice) : String :=
  " ".intercalate (n.level.name :: n.message :: n.fields.map fun (name, value) => name ++ "=" ++ value)

end Notice

/-- The notice due when a delivery takes a number: one for every multiple of `every`. -/
def progressNotice (every number : Nat) : List Notice :=
  if number % max every 1 = 0 then [.progress number] else []

/-- What a sink writes about a batch. -/
def Sink.notices (sink : Sink) (batch : Batch) : List Notice :=
  if sink.logs then
    [.deliveryLogged (batch.owner.map (·.id)) batch.events.length (batch.events.head?.map (·.time))]
  else []

end ShopTraffic
