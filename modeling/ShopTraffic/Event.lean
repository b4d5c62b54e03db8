import ShopTraffic.Json.Value
import ShopTraffic.Time.Instant

/-!
# Events

* `Event` — a type, a time and attributes by key;
* `Event.set` — adds an attribute or replaces its value;
* `Event.text` — the record of an event: its type, its time, then the attributes in the order of
  their keys;
* `byTime` — the stable sort by time; `TimeOrdered` — what it makes of a list.
-/

namespace ShopTraffic

/-- One record of user activity. -/
structure Event where
  type : String
  time : Instant
  attributes : Fields := []
  deriving Repr, Inhabited

namespace Event

/-- Adds an attribute, or replaces the value of one that is there. -/
def set (e : Event) (key : String) (value : Json) : Event :=
  { e with attributes := e.attributes.put key value }

/-- The value of an attribute. -/
def attribute? (e : Event) (key : String) : Option Json := e.attributes.get? key

/-- The members of the event's record. -/
def members (e : Event) : List (String × Json) :=
  ("event_type", .str e.type) :: ("timestamp", .nat e.time.millis) :: e.attributes

/-- The event's record. -/
def record (e : Event) : Json := .obj e.members

/-- The text of the event's record. -/
def text (e : Event) : String := e.record.text

@[simp] theorem time_set (e : Event) (key : String) (value : Json) : (e.set key value).time = e.time :=
  rfl

@[simp] theorem attribute?_set_self (e : Event) (key : String) (value : Json) :
    (e.set key value).attribute? key = some value := by simp [set, attribute?]

theorem attribute?_set_of_ne (e : Event) {key other : String} (value : Json) (h : other ≠ key) :
    (e.set key value).attribute? other = e.attribute? other :=
  Fields.get?_put_of_ne value e.attributes h

end Event

/-- Events in the order of their times; events of equal time keep their order. -/
def byTime (events : List Event) : List Event := events.mergeSort fun a b => a.time ≤ b.time

/-- Events are in the order of their times. -/
def TimeOrdered (events : List Event) : Prop := events.Pairwise fun a b => a.time ≤ b.time

theorem byTime_perm (events : List Event) : (byTime events).Perm events :=
  List.mergeSort_perm _ _

theorem timeOrdered_byTime (events : List Event) : TimeOrdered (byTime events) := by
  have h := @List.pairwise_mergeSort Event (fun a b => decide (a.time ≤ b.time))
    (fun a b c hab hbc => by
      simp only [decide_eq_true_eq, Instant.le_def] at *; omega)
    (fun a b => by simp only [Bool.or_eq_true, decide_eq_true_eq, Instant.le_def]; omega) events
  simpa [byTime, TimeOrdered] using h

end ShopTraffic
