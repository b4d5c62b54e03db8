import Mathlib
import ShopTraffic.Proofs.Cadence
import ShopTraffic.Proofs.SessionStarts
import ShopTraffic.Proofs.Shipments

/-!
# Session starts in a window

What is planned for a window is planned for the day on which the window starts, and kept where it lies
in the window. So a window of a day is planned like the day itself, and a window can have a session at
each of its instants that the settings allow on that day. It has none after the next midnight.

* `Window.Covers`, `MadeOf.planWindow_eq_planDay` — a window of one day is planned like the day;
* `plans_agree` — streaming and bulk planning agree;
* `canDraw_planWindow` — a plan can have any number of sessions at an instant that is offered;
* `planWindow_reaches` — the instants at which a window can have sessions;
  `planWindow_misses_midnight` — a window across midnight does not reach its second day.
-/

set_option autoImplicit false

namespace ShopTraffic

open Chance

/-! ## A window and its day -/

/-- A window that covers a day and nothing else. -/
structure Window.Covers (w : Window) (day : Day) : Prop where
  start : w.start = day.start
  finish : w.finish.millis = day.start.millis + millisPerDay

namespace Window.Covers

variable {w : Window} {day : Day} {c : WorkloadSettings} {t : Instant}

theorem room (h : w.Covers day) : day.start.millis + millisPerDay < 0x10000000000000000 := by
  rw [← h.finish]
  exact w.finish.millis_lt

theorem dayStart (h : w.Covers day) : w.start.dayStart = day.start := by
  have hstart := Day.millis_start_of_room h.room
  have hle := w.start.dayStart_le
  have hnumber : w.start.day.number = day.number := by
    unfold Instant.day
    simp only
    rw [h.start, hstart, Nat.mul_div_cancel _ (by decide)]
  apply Instant.ext_millis
  rw [w.start.millis_dayStart, hnumber, hstart]

theorem contains (h : w.Covers day) (ht : c.Allows day t) : w.contains t := by
  rw [w.contains_iff, h.start]
  refine ⟨ht.since, ?_⟩
  rw [Instant.lt_def, h.finish]
  exact ht.before

end Window.Covers

/-- A window of one day is planned like the day. -/
theorem Planner.MadeOf.planWindow_eq_planDay {p : Planner} {c : WorkloadSettings} {w : Window}
    {day : Day} (h : p.MadeOf c) (hw : w.Covers day) (s : Source) :
    p.planWindow w s = p.planDay day.start s := by
  have hall : ∀ t ∈ (p.planDay day.start s).1, w.contains t :=
    fun t ht => hw.contains ((h.dayPlan hw.room s).allowed t ht)
  rw [planWindow_eq_filter, hw.dayStart, List.filter_eq_self.2 hall]

/-- **Streaming and bulk planning agree.** What is planned for a window is what is planned for its
day, in the same order and without what lies outside the window, and leaves the same source. A window
of exactly one day is planned like the day, and the backfill of a user on that day comes to the state
in which the sessions of the window leave it. -/
theorem plans_agree (p : Planner) :
    (∀ (w : Window) (s : Source), p.planWindow w s =
      ((p.planDay w.start.dayStart s).1.filter w.contains, (p.planDay w.start.dayStart s).2)) ∧
    ∀ c : WorkloadSettings, Planner.ofSettings c = .ok p →
      ∀ (w : Window) (day : Day), w.Covers day →
        (∀ s : Source, p.planWindow w s = p.planDay day.start s) ∧
        ∀ (b : Backfill) (generator : Generator) (user : User) (st : BackfillState),
          b.planner = p →
            (b.generateUserDay generator day user st).hand =
              st.handAfter (generateUser p generator w user st.source) := by
  refine ⟨p.planWindow_eq_filter, fun c hp w day hw => ?_⟩
  have hplan := (Planner.madeOf_of_ofSettings hp).planWindow_eq_planDay hw
  refine ⟨hplan, fun b generator user st hplanner => ?_⟩
  subst hplanner
  rw [b.hand_generateUserDay]
  unfold generateUser
  rw [hplan st.source]

theorem plans_agree_byDay :
    Planner.ofSettings Settings.byDay.workload = .ok Streamer.byDay.planner ∧
      (Window.ofLength ⟨0⟩ .zero 86400000).Covers (.cap 0) ∧
      ∀ (user : User) (st : BackfillState),
        let b : Backfill := { Backfill.twoDays with planner := Streamer.byDay.planner }
        (b.generateUserDay Surroundings.twoEvents.generator (.cap 0) user st).hand =
          st.handAfter (generateUser Streamer.byDay.planner Surroundings.twoEvents.generator
            (.ofLength ⟨0⟩ .zero 86400000) user st.source) := by
  have hcovers : (Window.ofLength ⟨0⟩ .zero 86400000).Covers (.cap 0) :=
    ⟨Instant.ext_millis (by decide), by decide⟩
  have hbackfill := ((plans_agree Streamer.byDay.planner).2 Settings.byDay.workload rfl _ _ hcovers).2
  exact ⟨rfl, hcovers, fun user st =>
    hbackfill { Backfill.twoDays with planner := Streamer.byDay.planner } _ user st rfl⟩

/-! ## The instants that a window reaches -/

namespace Planner

variable {p : Planner} {o : TimeOfDay} {c : WorkloadSettings} {w : Window} {t : Instant}

/-- A session of a window starts in the window, at an instant allowed on the day of the window. -/
theorem MadeOf.allows_of_mem_planWindow (h : p.MadeOf c) {s : Source}
    (ht : t ∈ (p.planWindow w s).1) : w.contains t ∧ c.Allows w.start.day t := by
  rw [planWindow_eq_filter] at ht
  obtain ⟨hmem, hcontains⟩ := List.mem_filter.1 ht
  obtain ⟨-, -, hoffered⟩ := p.planDay_offered w.start.dayStart s
  obtain ⟨o, ho, rfl⟩ := hoffered t hmem
  refine ⟨hcontains, h.allows_of_offers ho w.start.millis_dayStart ?_⟩
  -- An instant before the end of a window is not the last one, so the sum is not cut.
  have hbefore := ((w.contains_iff _).1 hcontains).2
  have hfinish := w.finish.millis_lt
  rw [Instant.lt_def] at hbefore
  rw [Instant.millis_plus] at hbefore ⊢
  unfold Instant.dayStart at hbefore ⊢
  omega

/-- A start that can be drawn can be drawn time and again. -/
theorem canDraw_starts {dayStart : Instant} (h : CanDraw (p.start dayStart) t) :
    ∀ n : Nat, CanDraw (p.starts dayStart n) (.replicate n t)
  | 0 => ⟨[], fun _ => rfl⟩
  | n + 1 => by
    have hrest := (canDraw_starts h n).map (t :: ·)
    have hdraw := h.bind (fun t s => (t :: (p.starts dayStart n s).1, (p.starts dayStart n s).2)) hrest
    refine hdraw.congr fun s => ?_
    simp only [starts]

/-- **A plan can have any number of sessions that is drawn, all at one instant that is offered.** -/
theorem canDraw_planWindow (hp : p.Addressable) (ho : p.Offers o) {n : Nat} (hn : n ∈ p.counts.values)
    (ht : w.contains (w.start.dayStart.plus o.millis)) :
    CanDraw (p.planWindow w) (.replicate n (w.start.dayStart.plus o.millis)) := by
  have hcount : CanDraw p.count n := Choice.canDraw hp.counts hn
  have hstarts := canDraw_starts (canDraw_start hp ho w.start.dayStart) n
  have hdraw := (hcount.bind (fun n s => p.starts w.start.dayStart n s) hstarts).map
    fun ts => sortInstants (ts.filter w.contains)
  rw [List.filter_replicate_of_pos ht, List.perm_replicate.1 (sortInstants_perm _)] at hdraw
  exact hdraw.congr (p.planWindow_eq w)

end Planner

/-- **Where a window can have sessions.** Settings that pass their check have a planner if their hour
weights fit. If they let a user come at all, each planner of theirs can have a session of a window
start at an instant if and only if the instant lies in the window and is one that the settings allow
on the day on which the window starts. -/
theorem planWindow_reaches (c : WorkloadSettings) (hcheck : c.check = .ok ())
    (hlists : c.Addressable) (hcount : ∃ n ∈ c.sessionCountChoices, 0 < n) :
    (c.HoursFit → ∃ p, Planner.ofSettings c = .ok p) ∧
    ∀ p, Planner.ofSettings c = .ok p → ∀ (w : Window) (t : Instant),
      (∃ s : Source, t ∈ (p.planWindow w s).1) ↔ w.contains t ∧ c.Allows w.start.day t := by
  refine ⟨(Planner.ofSettings_judged c).exists_ok hcheck, fun p hp w t => ?_⟩
  have hmade := Planner.madeOf_of_ofSettings hp
  constructor
  · rintro ⟨s, ht⟩
    exact hmade.allows_of_mem_planWindow ht
  · rintro ⟨hcontains, hallowed⟩
    obtain ⟨n, hn, hpos⟩ := hcount
    obtain ⟨ho, hplus⟩ := hmade.offers_of_allows w.start.millis_dayStart hallowed
    have hcontains' : w.contains (w.start.dayStart.plus t.timeOfDay.millis) := hplus ▸ hcontains
    obtain ⟨s, hs⟩ := (Planner.canDraw_planWindow (hmade.addressable hlists) ho
      (hmade.counts.symm ▸ hn) hcontains').exists_source
    refine ⟨s, ?_⟩
    rw [hs, List.mem_replicate]
    exact ⟨Nat.ne_of_gt hpos, hplus⟩

theorem planWindow_reaches_default : ({} : WorkloadSettings).check = .ok () ∧
    ({} : WorkloadSettings).Addressable ∧
      (∃ n ∈ ({} : WorkloadSettings).sessionCountChoices, 0 < n) ∧
      ∃ p, Planner.ofSettings {} = .ok p ∧
        ∃ s, Instant.cap 5 ∈ (p.planWindow (.ofLength ⟨0⟩ .zero 60000) s).1 := by
  have hcheck : ({} : WorkloadSettings).check = .ok () := by decide
  have hlists : ({} : WorkloadSettings).Addressable := ⟨by decide, by decide⟩
  have hcount : ∃ n ∈ ({} : WorkloadSettings).sessionCountChoices, 0 < n := by decide
  have hallowed : ({} : WorkloadSettings).Allows Instant.zero.day (.cap 5) :=
    ⟨by decide, by decide, ⟨3, by decide, by decide⟩, by decide⟩
  obtain ⟨hmade, hreaches⟩ := planWindow_reaches {} hcheck hlists hcount
  obtain ⟨p, hp⟩ := hmade (by decide)
  exact ⟨hcheck, hlists, hcount, p, hp, (hreaches p hp _ _).2 ⟨by decide, hallowed⟩⟩

/-- A window from one minute before midnight to one after it. -/
def Window.aroundMidnight : Window := .ofLength ⟨0⟩ (.cap 86340000) 120000

/-- **A window across midnight does not reach its second day**: with sessions in the first minute of a
day only, the window has none at midnight, though midnight lies in it. -/
theorem planWindow_misses_midnight :
    Settings.byDay.workload.check = .ok () ∧
      (∃ n ∈ Settings.byDay.workload.sessionCountChoices, 0 < n) ∧
      Window.aroundMidnight.contains (.cap 86400000) ∧
      (∃ weight, 0 < weight ∧
        Settings.byDay.workload.hourWeights[(Instant.cap 86400000).timeOfDay.hour]? = some weight) ∧
      (Instant.cap 86400000).timeOfDay.minute ∈ Settings.byDay.workload.minuteChoices ∧
      ∃ p, Planner.ofSettings Settings.byDay.workload = .ok p ∧
        ∀ s : Source, Instant.cap 86400000 ∉ (p.planWindow .aroundMidnight s).1 := by
  have hmade : Streamer.byDay.planner.MadeOf Settings.byDay.workload :=
    Planner.madeOf_of_ofSettings rfl
  refine ⟨by decide, by decide, by decide, ⟨1, by decide, by decide⟩, by decide, _, rfl, fun s hs => ?_⟩
  have hbefore := (hmade.allows_of_mem_planWindow hs).2.before
  revert hbefore
  decide

end ShopTraffic
