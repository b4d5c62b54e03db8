import ShopTraffic.Crash

/-!
# Instants and simulated days

All times are milliseconds since the start of 1970 in UTC, counted in 64 bits. Sums saturate at the
last instant, differences at zero. A day is a count of whole days since the same origin, so the day
of an instant is a division and needs no time zone.

* `Instant.plus`, `Instant.since` — saturating arithmetic;
* `Instant.day`, `Day.start` — the day of an instant and the midnight that opens a day;
* `Day.preceding` — the days before a day, oldest first; `Day.checkedPreceding` crashes where they are
  too many to list.
-/

namespace ShopTraffic

/-- Milliseconds of one day. -/
def millisPerDay : Nat := 86400000

/-- A moment, in milliseconds since the start of 1970. -/
structure Instant where
  millis : Nat
  millis_lt : millis < 0x10000000000000000 := by decide
  deriving DecidableEq, Repr

namespace Instant

instance : LT Instant := ⟨fun s t => s.millis < t.millis⟩
instance : LE Instant := ⟨fun s t => s.millis ≤ t.millis⟩
instance (s t : Instant) : Decidable (s < t) := inferInstanceAs (Decidable (s.millis < t.millis))
instance (s t : Instant) : Decidable (s ≤ t) := inferInstanceAs (Decidable (s.millis ≤ t.millis))
instance : Inhabited Instant := ⟨⟨0, by decide⟩⟩

/-- The origin of all times. -/
def zero : Instant := ⟨0, by decide⟩

/-- The last instant. -/
def last : Instant := ⟨0xFFFFFFFFFFFFFFFF, by decide⟩

/-- The instant `n` milliseconds after the origin, or the last one. -/
def cap (n : Nat) : Instant := ⟨min n 0xFFFFFFFFFFFFFFFF, by omega⟩

/-- The instant `n` milliseconds later, or the last one. -/
def plus (t : Instant) (n : Nat) : Instant := cap (t.millis + n)

/-- Milliseconds from `earlier` to `t`, none if `earlier` is the later one. -/
def since (t earlier : Instant) : Nat := t.millis - earlier.millis

theorem ext_millis {s t : Instant} (h : s.millis = t.millis) : s = t := by
  cases s; cases t; simp_all

theorem lt_def (s t : Instant) : s < t ↔ s.millis < t.millis := Iff.rfl

theorem le_def (s t : Instant) : s ≤ t ↔ s.millis ≤ t.millis := Iff.rfl

theorem le_of_lt {s t : Instant} (h : s < t) : s ≤ t := Nat.le_of_lt h

theorem lt_of_lt_of_le {r s t : Instant} (h : r < s) (h' : s ≤ t) : r < t :=
  Nat.lt_of_lt_of_le h h'

@[simp] theorem millis_cap (n : Nat) : (cap n).millis = min n 0xFFFFFFFFFFFFFFFF := rfl

@[simp] theorem millis_plus (t : Instant) (n : Nat) :
    (t.plus n).millis = min (t.millis + n) 0xFFFFFFFFFFFFFFFF := rfl

theorem le_plus (t : Instant) (n : Nat) : t ≤ t.plus n := by
  have := t.millis_lt
  simp only [le_def, millis_plus]; omega

end Instant

/-- A simulated calendar day, counted from the first day of 1970. -/
structure Day where
  number : Nat
  number_lt : number < 0x10000000000000000 := by decide
  deriving DecidableEq, Repr

namespace Day

/-- Day number `n`, or the last day that can be counted. -/
def cap (n : Nat) : Day := ⟨min n 0xFFFFFFFFFFFFFFFF, by omega⟩

/-- Midnight at the start of the day. -/
def start (d : Day) : Instant := .cap (d.number * millisPerDay)

/-- The following day; the last countable day has none. -/
def next (d : Day) : Except Crash Day :=
  if h : d.number + 1 < 0x10000000000000000 then .ok ⟨d.number + 1, h⟩ else .error .addOverflow

/-- Midnight at the start of the following day. -/
def finish (d : Day) : Except Crash Instant := do return (← d.next).start

/-- The `count` days before `d`, oldest first; fewer where the count of days would start. -/
def preceding (d : Day) (count : Nat) : List Day :=
  let n := min count d.number
  (List.range n).map fun i => cap (d.number - n + i)

/-- The `count` days before `d`, if a list can hold them. -/
def checkedPreceding (d : Day) (count : Nat) : Except Crash (List Day) := do
  claimRoom (min count d.number)
  return d.preceding count

@[simp] theorem length_preceding (d : Day) (count : Nat) :
    (d.preceding count).length = min count d.number := by simp [preceding]

end Day

/-- The day an instant falls on. -/
def Instant.day (t : Instant) : Day :=
  ⟨t.millis / millisPerDay, Nat.lt_of_le_of_lt (Nat.div_le_self _ _) t.millis_lt⟩

/-- Midnight at the start of the instant's day. -/
def Instant.dayStart (t : Instant) : Instant := t.day.start

theorem Instant.dayStart_le (t : Instant) : t.dayStart ≤ t := by
  have := t.millis_lt
  have := Nat.div_mul_le_self t.millis millisPerDay
  simp only [dayStart, Day.start, day, le_def, millis_cap]; omega

end ShopTraffic
