import Mathlib
import ShopTraffic.Time.Calendar

/-!
# Times of day

An instant lies some hours, minutes, seconds and milliseconds after the midnight of its day.

* `TimeOfDay`, `Instant.timeOfDay` — a time of day, and the one that an instant shows;
* `TimeOfDay.OnClock`, `Instant.timeOfDay_onClock`, `Instant.millis_eq` — a clock can show it, and
  the instant lies that far from midnight; `TimeOfDay.OnClock.timeOfDay_eq` — it is the only one;
* `Instant.millis_dayStart`, `Day.day_start` — where days begin.
-/

set_option autoImplicit false

namespace ShopTraffic

/-- A time of day. -/
structure TimeOfDay where
  hour : Nat
  minute : Nat
  second : Nat
  milli : Nat
  deriving DecidableEq, Repr

/-- The time of day that an instant shows. -/
def Instant.timeOfDay (t : Instant) : TimeOfDay :=
  ⟨t.millis % millisPerDay / 3600000, t.millis / 60000 % 60, t.millis / 1000 % 60, t.millis % 1000⟩

namespace TimeOfDay

/-- Milliseconds since midnight. -/
def millis (o : TimeOfDay) : Nat :=
  o.hour * 3600000 + o.minute * 60000 + o.second * 1000 + o.milli

/-- A time of day that a clock can show. -/
structure OnClock (o : TimeOfDay) : Prop where
  hour : o.hour < 24
  minute : o.minute < 60
  second : o.second < 60
  milli : o.milli < 1000

variable {o : TimeOfDay}

theorem OnClock.millis_lt (h : o.OnClock) : o.millis < millisPerDay := by
  obtain ⟨hhour, hminute, hsecond, hmilli⟩ := h
  unfold millis millisPerDay
  omega

/-- An instant shows the time of day that lies between it and midnight. -/
theorem OnClock.timeOfDay_eq (h : o.OnClock) {t : Instant} {n : Nat}
    (ht : t.millis = n * millisPerDay + o.millis) : t.timeOfDay = o := by
  obtain ⟨hour, minute, second, milli⟩ := o
  obtain ⟨hhour, hminute, hsecond, hmilli⟩ := h
  simp only [millis, millisPerDay] at ht hhour hminute hsecond hmilli
  unfold Instant.timeOfDay millisPerDay
  rw [TimeOfDay.mk.injEq]
  refine ⟨?_, ?_, ?_, ?_⟩ <;> omega

end TimeOfDay

namespace Instant

theorem timeOfDay_onClock (t : Instant) : t.timeOfDay.OnClock := by
  unfold timeOfDay millisPerDay
  constructor <;> simp only <;> omega

theorem millis_timeOfDay (t : Instant) : t.timeOfDay.millis = t.millis % millisPerDay := by
  simp only [timeOfDay, TimeOfDay.millis, millisPerDay]
  omega

/-- An instant is the time of day that it shows behind the days before it. -/
theorem millis_eq (t : Instant) :
    t.millis = t.day.number * millisPerDay + t.timeOfDay.millis := by
  rw [millis_timeOfDay]
  exact (Nat.div_add_mod' ..).symm

end Instant

/-! ## Midnights -/

theorem Instant.millis_dayStart (t : Instant) :
    t.dayStart.millis = t.day.number * millisPerDay := by
  have hle := t.dayStart_le
  have hlt := t.millis_lt
  rw [le_def] at hle
  unfold dayStart Day.start at hle ⊢
  rw [millis_cap] at hle ⊢
  have hdiv := Nat.div_mul_le_self t.millis millisPerDay
  unfold day
  simp only
  omega

/-- A day that ends before the last instant begins where its number says. -/
theorem Day.millis_start_of_room {d : Day}
    (h : d.start.millis + millisPerDay < 0x10000000000000000) :
    d.start.millis = d.number * millisPerDay := by
  unfold start millisPerDay at h ⊢
  rw [Instant.millis_cap] at h ⊢
  omega

/-- A day that begins where its number says is the day of its midnight. -/
theorem Day.day_start {d : Day} (h : d.start.millis = d.number * millisPerDay) :
    d.start.day = d := by
  obtain ⟨number, hnumber⟩ := d
  simp only [Instant.day, h, Day.mk.injEq]
  exact Nat.mul_div_cancel number (by decide)

end ShopTraffic
