import Mathlib
import ShopTraffic.Proofs.Cadence
import ShopTraffic.Proofs.SessionStarts

/-!
# What holds up a stream

Nothing but the pacers of its tasks makes a window wait for the clock. A task that runs to its deadline
does not end before its window, so the next window finds the clock where it has to be. A window
whose builds all fail has nobody to wait for it: it ends at the reading with which it began, and the
next window begins ahead of the clock.

* `Task.Performed.reaches`, `Task.Performed.untimed` — when a task ends;
* `runWindow_reaches`, `runWindow_untimed` — when a window ends; `record_holdsUp` — when the next one
  begins, in every history;
* `Planner.WithinDay.length_planWindow` — a window of a whole day has all sessions of the day;
* `run?_of_refused` — a task whose sessions are refused is not paced; `record_runsAhead` — a history
  whose second window begins a day ahead of its clock.
-/

set_option autoImplicit false

namespace ShopTraffic

open Chance

/-! ## When a task ends -/

/-- On a clock that keeps time a run that did not break off does not end before its window. -/
theorem pace_reaches {sink : Sink} {interval : Interval} {grace elapsed : Nat} {finish : Instant}
    {queues : List Queue} {origin : Instant}
    (h : (pace sink (.startingAt origin) interval grace finish queues elapsed).broken = none) :
    finish ≤ origin.plus
      (pace sink (.startingAt origin) interval grace finish queues elapsed).elapsed := by
  obtain ⟨-, hend⟩ := Run.toDeadline_end (finish.plus grace) { queues, elapsed } h
  have hfinish := finish.millis_lt
  unfold pace
  -- At the horizon the clock has passed the deadline or stands at the last instant, and no window
  -- ends later than that.
  simp only [Clock.startingAt, Instant.lt_def, Instant.le_def, Instant.millis_plus] at hend ⊢
  omega

namespace Task.Performed

variable {t : Task} {pace : Pace} {around : Surroundings} {w : Window} {start : Nat}
  {kept : List Event} {r : TaskReport}

/-- A task that runs to its deadline does not end before its window. -/
theorem reaches (h : t.Performed pace around w start kept r) {origin : Instant}
    (hclock : around.taskClock t.shard = .startingAt origin) (hsucceeded : r.succeeded) :
    w.finish ≤ origin.plus r.elapsed := by
  obtain ⟨run, hrun, hbroken⟩ := TaskReport.succeeded_iff.1 hsucceeded
  cases h with
  | paced _ _ _ _ hpace =>
    cases hrun
    rw [hclock] at hpace
    rw [hpace] at hbroken
    have hreaches := pace_reaches hbroken
    rw [← hpace] at hreaches
    exact hreaches
  | failed _ _ _ => cases hrun
  | crashed _ _ => cases hrun

/-- A task that does not come to pacing takes no time. -/
theorem untimed (h : t.Performed pace around w start kept r) (hnone : r.run? = none) :
    r.elapsed = start := by
  cases h with
  | paced _ _ _ _ _ => cases hnone
  | failed _ _ _ => rfl
  | crashed _ _ => rfl

end Task.Performed

/-- How the window of an episode bears on the window of the next one. -/
structure Episode.HoldsUp (e e' : Episode) : Prop where
  /-- If a task runs to its deadline, the next window begins when the clock has reached the end of
  this one, and so it does not begin ahead of the clock. -/
  reached : (∃ r ∈ e.run.reports, r.succeeded) →
    e.run.window.finish ≤ e'.now ∧ e'.run.window.start ≤ e'.now
  /-- If no task comes to pacing, the window takes no time. -/
  untimed : (∀ r ∈ e.run.reports, r.run? = none) → e.run.state.elapsed = e.before.elapsed

namespace Streamer

variable {s : Streamer} {around : Surroundings} {st : StreamState} {origin : Instant}

/-! ## When a window ends -/

/-- A window with a task that runs to its deadline lasts until the clock has reached its end. -/
theorem runWindow_reaches (hon : around.OnTime origin) {t : Task} (ht : t ∈ s.tasks around st)
    (hsucceeded : (s.reportOf around st t).succeeded) :
    (s.opening around st).finish ≤ origin.plus (s.runWindow around st).state.elapsed := by
  have htask := (performed s around st t).reaches (hon.taskClock t.shard) hsucceeded
  have hle := le_elapsed_runWindow s around st (.inr ⟨t, ht, rfl⟩)
  simp only [Instant.le_def, Instant.millis_plus] at htask ⊢
  omega

/-- A window none of whose tasks comes to pacing takes no time. -/
theorem runWindow_untimed (h : ∀ t ∈ s.tasks around st, (s.reportOf around st t).run? = none) :
    (s.runWindow around st).state.elapsed = st.elapsed := by
  have hbegin := le_elapsed_runWindow s around st (.inl rfl)
  have hend : (s.runWindow around st).state.elapsed ≤ st.elapsed := by
    apply elapsed_runWindow_le (Nat.le_refl _)
    intro t ht
    rw [(performed s around st t).untimed (h t ht)]
  omega

theorem opening_of_first (h : st.last = none) : s.opening around st =
    .ofLength ⟨0⟩ (around.clock.read st.elapsed) s.settings.window.wholeMillis := by
  unfold opening nextWindow
  rw [h]

theorem opening_of_last {w : Window} (h : st.last = some w) :
    s.opening around st = (w.successor (around.clock.read st.elapsed)).1 := by
  unfold opening nextWindow
  rw [h]

/-- A window does not begin ahead of a clock that has reached the end of the one before. -/
theorem successor_start_le {w : Window} {now : Instant} (h : w.finish ≤ now) :
    (w.successor now).1.start ≤ now := by
  unfold Window.successor
  simp only
  split
  · exact Nat.le_refl _
  · exact h

/-- **What holds up the next window.** -/
theorem runWindow_holdsUp {around' : Surroundings} (hon : around.OnTime origin)
    (hon' : around'.OnTime origin) (wait : Nat) :
    Episode.HoldsUp ⟨around, st, s.runWindow around st⟩ ⟨around',
      (s.runWindow around st).state.wait wait,
      s.runWindow around' ((s.runWindow around st).state.wait wait)⟩ := by
  constructor
  · rintro ⟨r, hr, hsucceeded⟩
    rw [runWindow_reports] at hr
    obtain ⟨t, ht, rfl⟩ := List.mem_map.1 hr
    have hreaches := runWindow_reaches hon ht hsucceeded
    have hnow : (s.opening around st).finish ≤
        around'.clock.read ((s.runWindow around st).state.wait wait).elapsed := by
      rw [hon'.clock]
      simp only [Clock.startingAt, StreamState.wait, Instant.le_def, Instant.millis_plus]
        at hreaches ⊢
      omega
    have hlast : ((s.runWindow around st).state.wait wait).last = some (s.opening around st) :=
      runWindow_last s around st
    unfold Episode.now
    simp only [runWindow_window]
    constructor
    · exact hnow
    · rw [opening_of_last hlast]
      exact successor_start_le hnow
  · intro hnone
    apply runWindow_untimed
    intro t ht
    apply hnone
    rw [runWindow_reports]
    exact List.mem_map_of_mem ht

/-- **When windows begin**: in every history on a clock that only moves while tasks rest, the first
window begins at the reading of the clock. A later one begins when the clock has reached the end of
the window before it, if a task of that window ran to its deadline; and a window none of whose tasks
came to pacing took no time at all. -/
theorem record_holdsUp (s : Streamer) (population : Population) (entropy : Nat) (origin : Instant)
    {os : List Occasion} {es : List Episode} {st : StreamState}
    (h : s.record os (s.start population entropy) = .ok (es, st))
    (hos : ∀ o ∈ os, o.around.OnTime origin) :
    (∀ e, es[0]? = some e → e.run.window.start = e.now) ∧
      ∀ (k : Nat) (e e' : Episode), es[k]? = some e → es[k + 1]? = some e' → e.HoldsUp e' := by
  have hrecorded := recorded_of_record h
  have hes := hrecorded.forall_around (P := fun around => around.OnTime origin) hos
  have hrun := hrecorded.run_eq
  constructor
  · intro e he
    obtain ⟨o, -, hbefore⟩ := hrecorded.first he
    have hlast : e.before.last = none := by
      rw [hbefore]
      rfl
    rw [hrun e (List.mem_of_getElem? he), runWindow_window, opening_of_first hlast]
    rfl
  · intro k e e' he he'
    obtain ⟨o, -, hbefore⟩ := hrecorded.next he he'
    have hmem := List.mem_of_getElem? he
    have hmem' := List.mem_of_getElem? he'
    obtain ⟨around, before, run⟩ := e
    obtain ⟨around', before', run'⟩ := e'
    have hsame : run = s.runWindow around before := hrun _ hmem
    have hsame' : run' = s.runWindow around' before' := hrun _ hmem'
    simp only at hbefore
    subst hsame hsame' hbefore
    exact runWindow_holdsUp (hes _ hmem) (hes _ hmem') o.wait

theorem record_holdsUp_byDay : ∃ es st,
    byDay.record Occasion.twoDays (byDay.start .single 0) = .ok (es, st) ∧ es.length = 2 ∧
      (∀ o ∈ Occasion.twoDays, o.around.OnTime .zero) ∧
      (∀ e, es[0]? = some e → e.run.window.start = e.now) ∧
      ∀ (k : Nat) (e e' : Episode), es[k]? = some e → es[k + 1]? = some e' → e.HoldsUp e' := by
  obtain ⟨es, st, h⟩ := byDay_record Occasion.twoDays 0
  have hos : ∀ o ∈ Occasion.twoDays, o.around.OnTime .zero := by
    simp [Occasion.twoDays, Surroundings.twoEvents_onTime]
  exact ⟨es, st, h, (recorded_of_record h).length_eq, hos, record_holdsUp byDay .single 0 .zero h hos⟩

end Streamer

/-! ## Sessions of a whole day -/

namespace Planner.WithinDay

variable {p : Planner}

/-- A window of a whole day has all sessions of the day. -/
theorem length_planWindow (h : p.WithinDay) {w : Window} (hstart : w.start.dayStart = w.start)
    (hfinish : w.start.millis + millisPerDay ≤ w.finish.millis) (source : Source) :
    (p.planWindow w source).1.length = (p.count source).1 := by
  have hall : ∀ t ∈ (p.planDay w.start source).1, w.contains t := by
    intro t ht
    obtain ⟨-, -, hoffered⟩ := p.planDay_offered w.start source
    obtain ⟨o, ho, rfl⟩ := hoffered t ht
    have hbefore := (h.onClock ho).millis_lt
    rw [w.contains_iff]
    constructor
    · exact Instant.le_plus _ _
    · rw [Instant.lt_def, Instant.millis_plus]
      omega
  rw [planWindow_eq_filter, hstart, List.filter_eq_self.2 hall, length_planDay]

end Planner.WithinDay

/-! ## Sessions that are refused -/

/-- No session of the generator comes to its end. -/
def Generator.Refuses (generator : Generator) : Prop :=
  ∀ user start source, (generator user start source).stop.isSome

theorem generateUser_refused {p : Planner} {generator : Generator} {w : Window}
    (h : generator.Refuses) (user : User) {source : Source} (hplan : (p.planWindow w source).1 ≠ []) :
    (generateUser p generator w user source).stop.isSome := by
  unfold generateUser
  generalize p.planWindow w source = planned at hplan
  obtain ⟨starts, source⟩ := planned
  cases starts with
  | nil => exact absurd rfl hplan
  | cons start starts =>
    have hrun : (generator.run (user.moveTo start) start source).stop.isSome := h _ _ _
    simp only [runSessions]
    split
    · exact hrun
    · rename_i hnone
      rw [hnone] at hrun
      cases hrun

/-- A task whose sessions are refused is not paced. -/
theorem Task.run?_of_refused {t : Task} {p : Planner} {pace : Pace} {around : Surroundings}
    {w : Window} (h : around.generator.Refuses) (hplan : ∀ source, (p.planWindow w source).1 ≠ [])
    (hgenerates : t.generates) (hintakes : t.intakes ≠ []) (start : Nat) :
    (t.perform p pace around w start).run? = none := by
  -- The first session of the first user ends the build, with an error or with a crash.
  have hstop : (generateAll p around.generator w t.intakes t.source).stop.isSome := by
    cases hcases : t.intakes with
    | nil => exact absurd hcases hintakes
    | cons i rest =>
      have huser := generateUser_refused h i.user (hplan t.source)
      simp only [generateAll]
      split
      · rfl
      · rename_i hnone
        rw [hnone] at huser
        cases huser
  unfold perform prepare build
  rw [if_pos hgenerates]
  simp only
  cases hcases : (generateAll p around.generator w t.intakes t.source).stop with
  | none =>
    rw [hcases] at hstop
    cases hstop
  | some stop => cases stop <;> rfl

namespace Streamer

variable {s : Streamer} {around : Surroundings} {st : StreamState}

/-- Where nothing waits and everyone has a session that is refused, a window takes no time. -/
theorem runWindow_refused (h : around.generator.Refuses) (hbacklog : st.backlog.entries = [])
    (hplan : ∀ source, (s.planner.planWindow (s.opening around st) source).1 ≠ []) :
    (s.runWindow around st).state.elapsed = st.elapsed := by
  apply runWindow_untimed
  intro t ht
  obtain ⟨hintakes, hgenerates⟩ := share_ne_nil (share_of_task ht)
  rw [opened_backlog, hbacklog] at hgenerates
  exact Task.run?_of_refused h hplan (hgenerates.resolve_right fun hne => hne rfl) hintakes _

end Streamer

/-- A generator that refuses every session, on a clock that keeps time. -/
def Surroundings.refusing : Surroundings where
  generator user _ source :=
    { events := [], user, source, stop := some (.error (.invalidUser user.id "refused")) }
  sink := .accepting
  clock := .startingAt .zero

namespace Streamer

theorem byDay_withinDay : byDay.planner.WithinDay := ⟨by decide, by decide⟩

/-- Everyone has a session on the first day. -/
theorem byDay_plan (source : Source) :
    (byDay.planner.planWindow (.ofLength ⟨0⟩ .zero 86400000) source).1 ≠ [] := by
  intro hnil
  have hstart : Instant.zero.dayStart = .zero :=
    Instant.ext_millis (by simp [Instant.dayStart, Instant.day, Day.start, Instant.zero])
  have hfinish : Instant.zero.millis + millisPerDay ≤ (Instant.zero.plus 86400000).millis := by
    decide
  have hlength := byDay_withinDay.length_planWindow (w := .ofLength ⟨0⟩ .zero 86400000) hstart
    hfinish source
  have hcount : (byDay.planner.count source).1 ∈ [1] := byDay.planner.counts.draw_mem source
  rw [hnil, List.mem_singleton.1 hcount] at hlength
  cases hlength

/-- The first window of the stream is the first day. -/
theorem byDay_opening :
    byDay.opening .refusing (byDay.start .single 0) = .ofLength ⟨0⟩ .zero 86400000 := by
  rw [opening_of_first rfl]
  rfl

theorem byDay_refused :
    (byDay.runWindow .refusing (byDay.start .single 0)).state.elapsed = 0 := by
  have hrefuses : Surroundings.refusing.generator.Refuses := fun _ _ _ => rfl
  apply runWindow_refused hrefuses rfl
  rw [byDay_opening]
  exact byDay_plan

/-- **A stream runs ahead of its clock** where no task comes to pacing: after a window whose build
failed, the next window begins a day before the clock reaches it. -/
theorem record_runsAhead : ∃ es st e e', ofSettings .byDay = .ok byDay ∧
    byDay.record [{ around := .refusing }, { around := .refusing }] (byDay.start .single 0) =
      .ok (es, st) ∧
    Surroundings.refusing.OnTime .zero ∧ es[0]? = some e ∧ es[1]? = some e' ∧
      e'.now < e.run.window.finish ∧ e'.now < e'.run.window.start := by
  obtain ⟨es, st, h⟩ := byDay_record [{ around := .refusing }, { around := .refusing }] 0
  have hrecorded := recorded_of_record h
  obtain ⟨e, e', rfl⟩ := List.length_eq_two.1 hrecorded.length_eq
  have haround := hrecorded.forall_around (P := (· = .refusing)) (by simp)
  have hwait : ∀ o ∈ [({ around := .refusing } : Occasion), { around := .refusing }], o.wait = 0 := by
    simp
  have he : [e, e'][0]? = some e := rfl
  have he' : [e, e'][0 + 1]? = some e' := rfl
  obtain ⟨o, ho, hbefore⟩ := hrecorded.first he
  obtain ⟨o', ho', hbefore'⟩ := hrecorded.next he he'
  rw [hwait o ho] at hbefore
  rw [hwait o' ho'] at hbefore'
  have hrun : e.run = byDay.runWindow .refusing (byDay.start .single 0) := by
    rw [hrecorded.run_eq e (by simp), haround e (by simp), hbefore]
    rfl
  have hrun' : e'.run = byDay.runWindow .refusing e'.before := by
    rw [hrecorded.run_eq e' (by simp), haround e' (by simp)]
  have helapsed : e'.before.elapsed = 0 := by
    rw [hbefore', hrun]
    exact byDay_refused
  have hnow : e'.now = .zero := by
    unfold Episode.now
    rw [haround e' (by simp), helapsed]
    rfl
  have hlast : e'.before.last = some (.ofLength ⟨0⟩ .zero 86400000) := by
    rw [hbefore', hrun, ← byDay_opening]
    exact runWindow_last byDay .refusing (byDay.start .single 0)
  refine ⟨_, st, e, e', byDay_ofSettings, h, ⟨rfl, fun _ => rfl⟩, rfl, rfl, ?_, ?_⟩
  · rw [hnow, hrun, runWindow_window, byDay_opening]
    decide
  · have hread : Surroundings.refusing.clock.read e'.before.elapsed = .zero := by
      rw [helapsed]
      rfl
    rw [hnow, hrun', runWindow_window, opening_of_last hlast, hread]
    decide

end Streamer

end ShopTraffic
