import ShopTraffic.Event
import ShopTraffic.Total
import ShopTraffic.User

/-!
# The backlog

Events that a window could not deliver wait in the backlog, by user, until the next window takes
them.

* `Carried` — a user with events left over;
* `Backlog.absorb` — adds leftovers, merging by time with what a user has already;
* `Backlog.take`, `Backlog.drain` — gives the events of one user, and of all that are left.
-/

namespace ShopTraffic

/-- A user and the events left over for a later window. -/
structure Carried where
  user : User
  events : List Event
  deriving Repr

/-- The total number of events left over. -/
def carriedCount (entries : List Carried) : Nat := totalOf (·.events.length) entries

/-- Events left over, one entry for a user, in the order of the identities. -/
structure Backlog where
  entries : List Carried := []
  deriving Repr

namespace Backlog

/-- Adds an entry in its place; a user that is there keeps the entry and gains the events. -/
def insertEntry (c : Carried) : List Carried → List Carried
  | [] => [c]
  | e :: rest =>
    if c.user.id = e.user.id then { e with events := byTime (e.events ++ c.events) } :: rest
    else if c.user.id.number < e.user.id.number then c :: e :: rest
    else e :: insertEntry c rest

/-- Adds the leftovers of one user, unless there are none. -/
def add (b : Backlog) (c : Carried) : Backlog :=
  if c.events.isEmpty then b else ⟨insertEntry c b.entries⟩

/-- Adds leftovers one after the other. -/
def absorb (b : Backlog) (cs : List Carried) : Backlog := cs.foldl add b

/-- The events of a user. -/
def get? (b : Backlog) (id : UserId) : Option (List Event) :=
  (b.entries.find? (·.user.id = id)).map (·.events)

/-- The events of a user, none for a user who is not there. -/
def eventsOf (b : Backlog) (id : UserId) : List Event := (b.get? id).getD []

/-- All events left over. -/
def events (b : Backlog) : List Event := b.entries.flatMap (·.events)

/-- Whether a user has events. -/
def holds (b : Backlog) (id : UserId) : Bool := b.entries.any (·.user.id = id)

/-- The users that `absorb` finds in the backlog already, in order. -/
def clashes (b : Backlog) : List Carried → List UserId
  | [] => []
  | c :: cs =>
    let rest := clashes (b.add c) cs
    if !c.events.isEmpty && b.holds c.user.id then c.user.id :: rest else rest

/-- Removes and gives the events of a user. -/
def take (b : Backlog) (id : UserId) : Option (List Event) × Backlog :=
  (b.get? id, ⟨b.entries.filter (·.user.id ≠ id)⟩)

/-- Removes and gives all entries. -/
def drain (b : Backlog) : List Carried × Backlog := (b.entries, {})

/-- How many users have events. -/
def size (b : Backlog) : Nat := b.entries.length

/-- How many events there are. -/
def count (b : Backlog) : Nat := carriedCount b.entries

theorem get?_take (b : Backlog) (id : UserId) : (b.take id).2.get? id = none := by
  simp [take, get?]

end Backlog

end ShopTraffic
