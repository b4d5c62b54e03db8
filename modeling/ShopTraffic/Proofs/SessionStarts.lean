import Mathlib
import ShopTraffic.Proofs.Acceptance
import ShopTraffic.Proofs.Draws
import ShopTraffic.Proofs.Plans
import ShopTraffic.Proofs.TimesOfDay

/-!
# When sessions start

A planner offers times of day: hours with a weight, minutes to choose from, any second and any
millisecond. What it draws is a time that it offers, counted from the midnight of a day, and it can
draw each of them. For settings that pass their check these are the times of the day itself that the
settings allow.

* `Planner.Offers`, `Planner.WithinDay` — the times of day of a planner, and a planner that has no
  others; `Planner.start_offered`, `Planner.canDraw_start` — what it offers is what it draws;
* `WorkloadSettings.Allows` — the instants of a day at which settings let sessions start;
  `Planner.MadeOf.allows_of_offers`, `Planner.MadeOf.offers_of_allows` — a planner made of them offers
  these;
* `WorkloadSettings.DayPlan` — a plan of a day as settings allow it;
* `planDay_allowed` — starts respect the day and the distributions.
-/

set_option autoImplicit false

namespace ShopTraffic

open Chance

namespace Planner

/-! ## What a planner draws -/

/-- A time of day at which a planner lets sessions start. -/
structure Offers (p : Planner) (o : TimeOfDay) : Prop where
  hour : ∃ weight, 0 < weight ∧ (o.hour, weight) ∈ p.hours.entries
  minute : o.minute ∈ p.minutes.values
  second : o.second ≤ 59
  milli : o.milli ≤ 999

/-- All hours and minutes of a planner are those of a day. -/
structure WithinDay (p : Planner) : Prop where
  hours : ∀ entry ∈ p.hours.entries, entry.1 < 24
  minutes : ∀ minute ∈ p.minutes.values, minute < 60

/-- Lists of choices and a sum of weights that one word of chance can address. -/
structure Addressable (p : Planner) : Prop where
  counts : p.counts.values.length ≤ Width.wide.size
  hours : weightSum p.hours.entries ≤ Width.narrow.size
  minutes : p.minutes.values.length ≤ Width.wide.size

variable {p : Planner} {o : TimeOfDay}

theorem WithinDay.onClock (h : p.WithinDay) (ho : p.Offers o) : o.OnClock := by
  obtain ⟨weight, -, hhour⟩ := ho.hour
  exact ⟨h.hours _ hhour, h.minutes _ ho.minute, Nat.lt_succ_of_le ho.second,
    Nat.lt_succ_of_le ho.milli⟩

/-- **A start is drawn at a time that is offered.** -/
theorem start_offered (p : Planner) (dayStart : Instant) (s : Source) :
    ∃ o, p.Offers o ∧ (p.start dayStart s).1 = dayStart.plus o.millis := by
  have hhour := p.hours.draw_mem s
  have hminute := p.minutes.draw_mem (p.hours.draw s).2
  unfold start
  simp only
  generalize p.minutes.draw (p.hours.draw s).2 = minute at hminute
  obtain ⟨minute, s'⟩ := minute
  have hsecond := (Source.between_mem (w := .wide) s' (Nat.zero_le 59) (by decide)).2
  generalize s'.between .wide 0 59 = second at hsecond
  obtain ⟨second, s'⟩ := second
  have hmilli := (Source.between_mem (w := .wide) s' (Nat.zero_le 999) (by decide)).2
  exact ⟨⟨_, minute, second, _⟩, ⟨hhour, hminute, hsecond, hmilli⟩, rfl⟩

/-- **Every time that is offered can be drawn.** -/
theorem canDraw_start (hp : p.Addressable) (ho : p.Offers o) (dayStart : Instant) :
    CanDraw (p.start dayStart) (dayStart.plus o.millis) := by
  obtain ⟨weight, hweight, hhour⟩ := ho.hour
  obtain ⟨hours, hhours⟩ := Table.canDraw hp.hours hweight hhour
  obtain ⟨minutes, hminutes⟩ := Choice.canDraw hp.minutes ho.minute
  obtain ⟨seconds, hseconds⟩ :=
    canDraw_between (w := .wide) (Nat.zero_le o.second) ho.second (by decide)
  obtain ⟨millis, hmillis⟩ :=
    canDraw_between (w := .wide) (Nat.zero_le o.milli) ho.milli (by decide)
  refine ⟨hours ++ (minutes ++ (seconds ++ millis)), fun s => ?_⟩
  simp only [start, Source.giving_append, hhours, hminutes, hseconds, hmillis]
  rfl

theorem mem_starts {dayStart t : Instant} :
    ∀ {n : Nat} {s : Source}, t ∈ (p.starts dayStart n s).1 →
      ∃ o, p.Offers o ∧ t = dayStart.plus o.millis
  | 0, _, h => absurd h List.not_mem_nil
  | n + 1, s, h => by
    simp only [starts, List.mem_cons] at h
    rcases h with rfl | h
    · exact p.start_offered dayStart s
    · exact mem_starts h

/-- The starts of a day are in order, as many as were drawn, and each at a time that is offered. -/
theorem planDay_offered (p : Planner) (dayStart : Instant) (s : Source) :
    (p.planDay dayStart s).1.Pairwise (· ≤ ·) ∧
      (p.planDay dayStart s).1.length ∈ p.counts.values ∧
      ∀ t ∈ (p.planDay dayStart s).1, ∃ o, p.Offers o ∧ t = dayStart.plus o.millis := by
  have hcount : (p.count s).1 ∈ p.counts.values := p.counts.draw_mem s
  refine ⟨?_, ?_, ?_⟩
  · rw [planDay_eq]
    exact sortInstants_sorted _
  · rwa [length_planDay]
  · intro t ht
    rw [planDay_eq] at ht
    exact mem_starts ((sortInstants_perm _).mem_iff.1 ht)

end Planner

/-! ## What settings allow -/

namespace WorkloadSettings

/-- Lists of choices that one word of chance can address, as every list in memory is. -/
structure Addressable (c : WorkloadSettings) : Prop where
  counts : c.sessionCountChoices.length ≤ Width.wide.size
  minutes : c.minuteChoices.length ≤ Width.wide.size

/-- An instant of a day at which settings let sessions start. -/
structure Allows (c : WorkloadSettings) (day : Day) (t : Instant) : Prop where
  since : day.start ≤ t
  before : t.millis < day.start.millis + millisPerDay
  hour : ∃ weight, 0 < weight ∧ c.hourWeights[t.timeOfDay.hour]? = some weight
  minute : t.timeOfDay.minute ∈ c.minuteChoices

/-- Session starts of one user on a day, as settings allow them. -/
structure DayPlan (c : WorkloadSettings) (day : Day) (ts : List Instant) : Prop where
  allowed : ∀ t ∈ ts, c.Allows day t
  ordered : ts.Pairwise (· ≤ ·)
  count : ts.length ∈ c.sessionCountChoices

end WorkloadSettings

namespace Planner

theorem mem_hourEntries {weights : List Nat} {hour weight : Nat} :
    (hour, weight) ∈ hourEntries weights ↔ weights[hour]? = some weight := by
  unfold hourEntries
  simp [List.mem_zipIdx_iff_getElem?]

/-- A planner of settings that pass their check and whose hour weights fit. -/
structure MadeOf (p : Planner) (c : WorkloadSettings) : Prop where
  checked : c.check = .ok ()
  fits : c.HoursFit
  counts : p.counts.values = c.sessionCountChoices
  hours : p.hours.entries = hourEntries c.hourWeights
  minutes : p.minutes.values = c.minuteChoices

variable {p : Planner} {c : WorkloadSettings} {o : TimeOfDay} {day : Day} {t : Instant}

theorem madeOf_of_ofSettings (h : ofSettings c = .ok p) : p.MadeOf c := by
  have hjudged := ofSettings_judged c
  rw [h] at hjudged
  obtain ⟨⟩ | ⟨⟩ | ⟨_, hcheck, hfits⟩ := hjudged
  have husable := WorkloadSettings.usable_of_check hcheck
  have hhours : 0 < weightSum (hourEntries c.hourWeights) := by
    rw [weightSum_hourEntries]
    exact husable.hours
  have hsum : c.hourWeights.sum < 0x100000000 := hfits
  unfold ofSettings at h
  rw [hcheck, Choice.ofList?_eq husable.sessionCounts, Choice.ofList?_eq husable.minutes,
    Table.ofEntries_eq hhours, weightSum_hourEntries, if_pos hsum] at h
  cases h
  exact ⟨hcheck, hfits, rfl, rfl, rfl⟩

namespace MadeOf

theorem addressable (h : p.MadeOf c) (hc : c.Addressable) : p.Addressable := by
  constructor
  · rw [h.counts]
    exact hc.counts
  · rw [h.hours, weightSum_hourEntries]
    exact Nat.le_of_lt h.fits
  · rw [h.minutes]
    exact hc.minutes

theorem withinDay (h : p.MadeOf c) : p.WithinDay := by
  obtain ⟨-, -, -, hlength, -, hminutes, -, -⟩ :=
    WorkloadSettings.problem?_eq_none_iff.1 (WorkloadSettings.check_eq_ok_iff.1 h.checked)
  constructor
  · rw [h.hours]
    intro entry hentry
    have hbound := (List.getElem?_eq_some_iff.1 (mem_hourEntries.1 hentry)).1
    omega
  · rw [h.minutes]
    exact hminutes

/-- **What is offered on a day is allowed.** -/
theorem allows_of_offers (h : p.MadeOf c) (ho : p.Offers o)
    (hday : day.start.millis = day.number * millisPerDay)
    (ht : t.millis = day.start.millis + o.millis) : c.Allows day t := by
  have hclock := h.withinDay.onClock ho
  have hbefore := hclock.millis_lt
  obtain ⟨weight, hweight, hhour⟩ := ho.hour
  have hminute := ho.minute
  rw [h.hours, mem_hourEntries] at hhour
  rw [h.minutes] at hminute
  have hshown : t.timeOfDay = o := hclock.timeOfDay_eq (hday ▸ ht)
  refine ⟨?_, by omega, ⟨weight, hweight, ?_⟩, ?_⟩
  · rw [Instant.le_def]
    omega
  · rwa [hshown]
  · rwa [hshown]

/-- **What is allowed on a day is offered.** -/
theorem offers_of_allows (h : p.MadeOf c) (hday : day.start.millis = day.number * millisPerDay)
    (ht : c.Allows day t) :
    p.Offers t.timeOfDay ∧ t = day.start.plus t.timeOfDay.millis := by
  obtain ⟨hsince, hbefore, ⟨weight, hweight, hhour⟩, hminute⟩ := ht
  have hclock := t.timeOfDay_onClock
  refine ⟨⟨⟨weight, hweight, ?_⟩, ?_, Nat.le_of_lt_succ hclock.second,
    Nat.le_of_lt_succ hclock.milli⟩, Instant.ext_millis ?_⟩
  · rwa [h.hours, mem_hourEntries]
  · rwa [h.minutes]
  · have hlt := t.millis_lt
    rw [Instant.le_def] at hsince
    rw [Instant.millis_plus, t.millis_timeOfDay]
    unfold millisPerDay at *
    omega

/-- A start that is drawn on a day with room for it is allowed. -/
theorem allows_of_plus (h : p.MadeOf c) (ho : p.Offers o)
    (hroom : day.start.millis + millisPerDay < 0x10000000000000000) :
    c.Allows day (day.start.plus o.millis) := by
  have hbefore := (h.withinDay.onClock ho).millis_lt
  refine h.allows_of_offers ho (Day.millis_start_of_room hroom) ?_
  rw [Instant.millis_plus]
  omega

theorem dayPlan (h : p.MadeOf c) (hroom : day.start.millis + millisPerDay < 0x10000000000000000)
    (s : Source) : c.DayPlan day (p.planDay day.start s).1 := by
  obtain ⟨hordered, hcount, hoffered⟩ := p.planDay_offered day.start s
  refine ⟨fun t ht => ?_, hordered, h.counts ▸ hcount⟩
  obtain ⟨o, ho, rfl⟩ := hoffered t ht
  exact h.allows_of_plus ho hroom

end MadeOf

end Planner

/-- **Session starts respect the day and the distributions.** For settings that pass their check and
whose hour weights fit there is a planner, and on every day that ends before the last instant all
that it draws lies on that day, in an hour with a weight and in a minute to choose from; a plan of
the day is a sorted list of such starts, as many as one of the choices says. -/
theorem planDay_allowed (c : WorkloadSettings) (hcheck : c.check = .ok ()) (hfits : c.HoursFit) :
    ∃ p, Planner.ofSettings c = .ok p ∧ ∀ day : Day,
      day.start.millis + millisPerDay < 0x10000000000000000 → ∀ s : Source,
        c.Allows day (p.start day.start s).1 ∧ c.DayPlan day (p.planDay day.start s).1 := by
  obtain ⟨p, hp⟩ := (Planner.ofSettings_judged c).exists_ok hcheck hfits
  have hmade := Planner.madeOf_of_ofSettings hp
  refine ⟨p, hp, fun day hroom s => ⟨?_, hmade.dayPlan hroom s⟩⟩
  obtain ⟨o, ho, hstart⟩ := p.start_offered day.start s
  rw [hstart]
  exact hmade.allows_of_plus ho hroom

theorem planDay_allowed_default : ({} : WorkloadSettings).check = .ok () ∧
    ({} : WorkloadSettings).HoursFit ∧
      (Day.cap 20).start.millis + millisPerDay < 0x10000000000000000 ∧
      ∃ p, Planner.ofSettings {} = .ok p ∧ ∀ s : Source,
        ({} : WorkloadSettings).DayPlan (.cap 20) (p.planDay (Day.cap 20).start s).1 := by
  have hcheck : ({} : WorkloadSettings).check = .ok () := by decide
  have hfits : ({} : WorkloadSettings).HoursFit := by decide
  have hroom : (Day.cap 20).start.millis + millisPerDay < 0x10000000000000000 := by decide
  obtain ⟨p, hp, hallowed⟩ := planDay_allowed {} hcheck hfits
  exact ⟨hcheck, hfits, hroom, p, hp, fun s => (hallowed (.cap 20) hroom s).2⟩

end ShopTraffic
