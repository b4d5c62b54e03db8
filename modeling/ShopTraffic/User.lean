import ShopTraffic.Identity
import ShopTraffic.Json.Value
import ShopTraffic.Time.Instant

/-!
# Users

A user has an identity, a platform and a device, and four changing numbers: the simulated time, the
sessions so far, and for the current window the events assigned and the events handed over.

* `User.beginWindow`, `User.recordSent`, `User.unsent` — the counters of a window;
* `User.moveTo`, `User.advance`, `User.nextSession` — the simulated time and the session number;
* `recordSent_eq_ok_iff` — a hand-over is recorded exactly where the window of the user holds it.
-/

namespace ShopTraffic

/-- The platform a user's traffic comes from. -/
inductive Platform where
  | android
  | ios
  | web
  deriving DecidableEq, Repr

def Platform.name : Platform → String
  | .android => "Android"
  | .ios => "iOS"
  | .web => "Web"

/-- A device as events and requests describe it. -/
structure Device where
  brand : String
  model : String
  osVersion : String
  screenWidth : Nat
  screenHeight : Nat
  locale : String
  address : String
  deriving DecidableEq, Repr

/-- The members of a device's record in their own order. -/
def Device.members (d : Device) : List (String × Json) :=
  [("brand", .str d.brand), ("model", .str d.model), ("os_version", .str d.osVersion),
    ("screen_width", .nat d.screenWidth), ("screen_height", .nat d.screenHeight),
    ("locale", .str d.locale), ("ip_address", .str d.address)]

/-- The record of a device, members in their own order. -/
def Device.record (d : Device) : Json := .obj d.members

/-- The record of a device inside an event, members in the order of their keys. -/
def Device.attribute (d : Device) : Json := .obj (Fields.ofList d.members)

/-- A synthetic user. -/
structure User where
  id : UserId
  platform : Platform
  device : Device
  /-- The place in the population, which tells users apart even if their identities are equal. -/
  seat : Nat := 0
  /-- The user's simulated time. -/
  time : Instant := .zero
  /-- Sessions generated so far. -/
  sessions : Nat := 0
  /-- Events assigned in the current window, carried and new. -/
  total : Nat := 0
  /-- Events handed over in the current window. -/
  sent : Nat := 0
  deriving DecidableEq, Repr

namespace User

def text (u : User) : String := s!"User({u.id.short}, {u.platform.name})"

/-- Sets the simulated time. -/
def moveTo (u : User) (t : Instant) : User := { u with time := t }

/-- Moves the simulated time on by `n` milliseconds. The count of the stored time starts again at
the end of its range; the time that is returned stays at the last instant. -/
def advance (u : User) (n : Nat) : Instant × User :=
  (u.time.plus n,
    { u with time := ⟨(u.time.millis + n) % 0x10000000000000000, Nat.mod_lt _ (by decide)⟩ })

/-- Takes the next session number, one for the first session. -/
def nextSession (u : User) : Except Crash (Nat × User) := do
  let n ← checkedAdd u.sessions 1
  return (n, { u with sessions := n })

/-- Starts a window that holds `total` events for the user. -/
def beginWindow (u : User) (total : Nat) : User := { u with total, sent := 0 }

/-- Records `count` events as handed over. More than the window holds is a crash. -/
def recordSent (u : User) (count : Nat) : Except Crash User := do
  let sent ← checkedAdd u.sent count
  if sent ≤ u.total then return { u with sent }
  else throw (.oversent u.id.hex sent u.total)

/-- Events assigned and not yet handed over. -/
def unsent (u : User) : Nat := u.total - u.sent

theorem recordSent_eq_ok_iff {u v : User} {count : Nat} :
    u.recordSent count = .ok v ↔ u.sent + count < 0x10000000000000000 ∧
      u.sent + count ≤ u.total ∧ v = { u with sent := u.sent + count } := by
  unfold recordSent checkedAdd
  by_cases hfits : u.sent + count < 0x10000000000000000
  · by_cases hle : u.sent + count ≤ u.total
    · simp only [hfits, hle, if_true, bind, Except.bind, pure, Except.pure, Except.ok.injEq,
        true_and, eq_comm]
    · simp [if_pos hfits, bind, Except.bind, hle, throw, throwThe, MonadExceptOf.throw]
  · simp [hfits, bind, Except.bind]

end User

end ShopTraffic
