import Mathlib
import ShopTraffic.Proofs.CarryOver

/-!
# The cadence of windows

On a clock that only moves while tasks rest, a window ends when the last of its tasks does. Where
deliveries take no time a task ends at most one tick past its deadline, so a stream whose grace and
tick fit into a window never falls behind: its windows follow each other without a gap from the first
one on.

* `Window.InStep`, `Episode.Restarted` — windows at the cadence, and off it;
* `StreamState.Ready` — what a state has to be for the next window to be in step;
* `opening_inStep`, `runWindow_ready` — one window; `record_inStep` — no history drifts.
-/

set_option autoImplicit false

namespace ShopTraffic

/-- The reading of the clock from which the window of an episode is derived. -/
def Episode.now (e : Episode) : Instant := e.around.clock.read e.before.elapsed

/-- The window of an episode begins at the reading of the clock, since the stream fell behind. -/
def Episode.Restarted (e : Episode) : Prop :=
  ∃ last, e.before.last = some last ∧ (last.successor e.now).2 = true

/-- Window number `k` of windows of one length that follow each other from an instant on. -/
structure Window.InStep (w : Window) (first : Instant) (length k : Nat) : Prop where
  index : w.index.number = k
  start : w.start.millis = first.millis + k * length
  finish : w.finish.millis = first.millis + (k + 1) * length

/-- A state in which window number `k` is next, in step with the windows before. -/
inductive StreamState.Ready (st : StreamState) (origin first : Instant) (length : Nat) : Nat → Prop
  | first : st.last = none → origin.plus st.elapsed = first → Ready st origin first length 0
  | next {w : Window} {k : Nat} : st.last = some w → w.InStep first length k →
    origin.millis + st.elapsed ≤ w.finish.millis + length → Ready st origin first length (k + 1)

namespace Window

variable {w : Window} {first : Instant} {length k : Nat}

/-- A window follows without a gap when the clock is no more than a length behind. -/
theorem successor_eq {now : Instant} (h : now.since w.finish ≤ w.length) :
    w.successor now = (.ofLength ⟨w.index.number + 1⟩ w.finish w.length, false) := by
  unfold successor
  exact if_neg (Nat.not_lt.2 h)

theorem inStep_ofLength (h : first.millis + length < 0xFFFFFFFFFFFFFFFF) :
    (ofLength ⟨0⟩ first length).InStep first length 0 := by
  constructor
  · rfl
  · show first.millis = first.millis + 0 * length
    omega
  · simp only [ofLength, Instant.millis_plus]
    omega

/-- The successor of a window in step is in step, if the clock is not too late for it. -/
theorem InStep.successor (h : w.InStep first length k) {now : Instant}
    (hnow : now.millis ≤ w.finish.millis + length)
    (hend : first.millis + (k + 1 + 1) * length < 0xFFFFFFFFFFFFFFFF) :
    (w.successor now).1.InStep first length (k + 1) ∧ (w.successor now).2 = false := by
  have hstart := h.start
  have hfinish := h.finish
  have hk : (k + 1) * length = k * length + length := Nat.succ_mul k length
  have hk' : (k + 1 + 1) * length = (k + 1) * length + length := Nat.succ_mul (k + 1) length
  have hlength : w.length = length := by
    unfold Window.length Instant.since
    omega
  have hlate : now.since w.finish ≤ w.length := by
    unfold Instant.since
    omega
  rw [successor_eq hlate, hlength]
  refine ⟨?_, rfl⟩
  constructor
  · simp only [ofLength, h.index]
  · simp only [ofLength, hfinish]
  · simp only [ofLength, Instant.millis_plus, hfinish]
    omega

end Window

theorem Chance.Choice.values_of_ofList? {α : Type} {values : List α} {choice : Choice α}
    (h : Choice.ofList? values = some choice) : choice.values = values := by
  unfold ofList? at h
  split at h
  · cases h
    rfl
  · cases h

namespace Streamer

/-- A stream keeps its settings, ticks as often as they say, and draws how many users are active from
their choices. -/
theorem settings_of_ofSettings {c : Settings} {s : Streamer} (h : ofSettings c = .ok s) :
    s.settings = c ∧ s.interval.millis = c.poll.startedMillis ∧
      s.activeCount.values = c.workload.activeChoices := by
  unfold ofSettings at h
  split at h
  · cases h
  · cases hplanner : (Planner.ofSettings c.workload).mapError (Stop.map SettingsError.workload) with
    | error e => simp [hplanner, bind, Except.bind] at h
    | ok planner =>
      simp only [hplanner, bind, Except.bind] at h
      split at h
      · rename_i activeCount hcount
        cases hpermits : taskPermits c.shards with
        | error e => simp [hpermits] at h
        | ok _ =>
          simp only [hpermits, pure, Except.pure, Except.ok.injEq] at h
          subst h
          exact ⟨rfl, rfl, Chance.Choice.values_of_ofList? hcount⟩
      · cases h

variable {s : Streamer} {around : Surroundings} {st : StreamState} {origin first : Instant}
  {length k : Nat}

/-- **The window that opens is in step.** -/
theorem opening_inStep (hclock : around.clock = .startingAt origin)
    (hlength : s.settings.window.wholeMillis = length) (h : st.Ready origin first length k)
    (hend : first.millis + (k + 1) * length < 0xFFFFFFFFFFFFFFFF) :
    ¬ Episode.Restarted ⟨around, st, s.runWindow around st⟩ ∧
      (s.opening around st).InStep first length k := by
  have hread : around.clock.read st.elapsed = origin.plus st.elapsed := by rw [hclock]; rfl
  unfold Episode.Restarted Episode.now opening nextWindow
  simp only [hread]
  cases h with
  | first hlast hfirst =>
    rw [hlast, hfirst, hlength]
    constructor
    · rintro ⟨_, hsome, -⟩
      cases hsome
    · exact Window.inStep_ofLength (by omega)
  | @next w k hlast hstep hreading =>
    have hnow : (origin.plus st.elapsed).millis ≤ w.finish.millis + length := by
      rw [Instant.millis_plus]
      omega
    obtain ⟨hnext, hfalse⟩ := hstep.successor hnow hend
    rw [hlast]
    constructor
    · rintro ⟨last, hsome, htrue⟩
      cases hsome
      rw [hfalse] at htrue
      cases htrue
    · exact hnext

/-- **A window leaves the stream in step**, where deliveries take no time and the grace and a tick
fit into a window. -/
theorem runWindow_ready (hon : around.OnTime origin) (hlatency : ∀ b, around.sink.latency b = 0)
    (hlength : s.settings.window.wholeMillis = length)
    (hfits : s.pace.grace + s.pace.interval.millis ≤ length) (h : st.Ready origin first length k)
    (hend : first.millis + (k + 1) * length < 0xFFFFFFFFFFFFFFFF) :
    (s.runWindow around st).state.Ready origin first length (k + 1) := by
  obtain ⟨-, hstep⟩ := opening_inStep (s := s) hon.clock hlength h hend
  refine .next (runWindow_last s around st) hstep ?_
  have hfinish := hstep.finish
  have hbegin := opening_not_past s around st
  rw [hon.clock] at hbegin
  simp only [Clock.startingAt, Instant.le_def, Instant.millis_plus] at hbegin
  -- A pacer may find its last tick on the deadline and rest once more, so a window can end a tick
  -- past the grace. A stream restarts only when it is more than a length behind, and not at a length.
  have hle : (s.runWindow around st).state.elapsed ≤
      (s.opening around st).finish.millis + length - origin.millis := by
    apply elapsed_runWindow_le (by omega)
    intro t _
    have htask : (s.reportOf around st t).elapsed ≤ _ := elapsed_reportOf_le hon hlatency t
    omega
  omega

/-- From a state in step on, every window of a history is in step. -/
theorem Recorded.inStep {st' : StreamState} {os : List Occasion} {es : List Episode}
    (h : s.Recorded st os es st') (hlength : s.settings.window.wholeMillis = length)
    (hfits : s.pace.grace + s.pace.interval.millis ≤ length)
    (hos : ∀ o ∈ os, o.wait = 0 ∧ o.around.OnTime origin ∧ ∀ b, o.around.sink.latency b = 0)
    (hst : st.Ready origin first length k)
    (hend : first.millis + (k + os.length) * length < 0xFFFFFFFFFFFFFFFF) :
    ∀ (i : Nat) (e : Episode), es[i]? = some e →
      ¬ e.Restarted ∧ e.run.window.InStep first length (k + i) := by
  induction h generalizing k with
  | nil st =>
    intro i e he
    cases he
  | @cons st st' o os es _ ih =>
    obtain ⟨⟨hwait, hon, hlatency⟩, hlater⟩ := List.forall_mem_cons.1 hos
    have hready : (st.wait o.wait).Ready origin first length k := by
      rw [hwait]
      exact hst
    have hsum : k + (o :: os).length = k + 1 + os.length := by
      rw [List.length_cons]
      omega
    rw [hsum] at hend
    have hnow : first.millis + (k + 1) * length < 0xFFFFFFFFFFFFFFFF := by
      have hmul := Nat.mul_le_mul_right length (Nat.le_add_right (k + 1) os.length)
      omega
    have hafter := runWindow_ready hon hlatency hlength hfits hready hnow
    intro i e he
    cases i with
    | zero =>
      cases he
      obtain ⟨hrestarted, hstep⟩ := opening_inStep (s := s) hon.clock hlength hready hnow
      constructor
      · exact hrestarted
      · rw [runWindow_window]
        exact hstep
    | succ i =>
      have hindex : k + (i + 1) = k + 1 + i := by omega
      rw [hindex]
      exact ih hlater hafter hend i e he

/-- **No drift**: in a stream whose settings are in whole milliseconds, with a grace and a tick that
fit into a window, on a clock that only moves while tasks rest and where deliveries take no time, no
window of any history without waits is restarted, and window number `k` is the `k`-th after the
reading with which the first one began. -/
theorem record_inStep {c : Settings} {s : Streamer} {length grace poll : Nat}
    (hs : ofSettings c = .ok s) (hwindow : c.window = .ofMillis length)
    (hgrace : c.grace = .ofMillis grace) (hpoll : c.poll = .ofMillis poll)
    (hfits : grace + poll ≤ length) (population : Population) (entropy wait : Nat)
    (origin : Instant) {os : List Occasion} {es : List Episode} {st : StreamState}
    (h : s.record os ((s.start population entropy).wait wait) = .ok (es, st))
    (hos : ∀ o ∈ os, o.wait = 0 ∧ o.around.OnTime origin ∧ ∀ b, o.around.sink.latency b = 0)
    (htime : (origin.plus wait).millis + os.length * length < 0xFFFFFFFFFFFFFFFF) :
    es.length = os.length ∧ ∀ (k : Nat) (e : Episode), es[k]? = some e →
      ¬ e.Restarted ∧ e.run.window.InStep (origin.plus wait) length k := by
  have hrecorded := recorded_of_record h
  have hcount := hrecorded.length_eq
  refine ⟨hcount, ?_⟩
  intro k e he
  obtain ⟨hsettings, hinterval, -⟩ := settings_of_ofSettings hs
  have hne : 0 < os.length := by
    have hlt := (List.getElem?_eq_some_iff.1 he).1
    omega
  have hbelow : length < 0xFFFFFFFFFFFFFFFF := by
    have hmul := Nat.le_mul_of_pos_left length hne
    omega
  have hlength : s.settings.window.wholeMillis = length := by
    rw [hsettings, hwindow, Span.wholeMillis_ofMillis]
    omega
  have hpace : s.pace.grace + s.pace.interval.millis ≤ length := by
    unfold Streamer.pace
    simp only [hsettings, hinterval, hgrace, hpoll, Span.wholeMillis_ofMillis,
      Span.startedMillis_ofMillis]
    omega
  have hready : ((s.start population entropy).wait wait).Ready origin (origin.plus wait) length 0 := by
    refine .first rfl ?_
    simp only [StreamState.wait, start, Nat.zero_add]
  have hend : (origin.plus wait).millis + (0 + os.length) * length < 0xFFFFFFFFFFFFFFFF := by
    rwa [Nat.zero_add]
  have hstep := hrecorded.inStep hlength hpace hos hready hend k e he
  rwa [Nat.zero_add] at hstep

end Streamer

/-! ## A stream of day-long windows -/

/-- Windows of a day, in which everyone comes once, in the first minute. Nobody joins. -/
def Settings.byDay : Settings :=
  { window := .ofMillis 86400000, grace := .ofMillis 10000, poll := .ofMillis 20000, shards := 1
    seed := some 7
    workload :=
      { newUsersPerDay := 0, activeChoices := [1], sessionCountChoices := [1]
        hourWeights := WorkloadSettings.onlyHourWeights 0, minuteChoices := [0] } }

/-- The stream with these settings. -/
def Streamer.byDay : Streamer :=
  { Streamer.daily with
    settings := .byDay
    planner :=
      { Streamer.daily.planner with
        hours := ⟨Planner.hourEntries (WorkloadSettings.onlyHourWeights 0), by decide⟩ }
    interval := ⟨20000, by decide⟩ }

theorem Surroundings.twoEvents_onTime : Surroundings.twoEvents.OnTime .zero := ⟨rfl, fun _ => rfl⟩

theorem Streamer.byDay_ofSettings : Streamer.ofSettings .byDay = .ok .byDay := rfl

theorem Streamer.byDay_record (os : List Occasion) (wait : Nat) :
    ∃ es st, Streamer.byDay.record os ((Streamer.byDay.start .single 0).wait wait) = .ok (es, st) := by
  have hsound : ((Streamer.byDay.start .single 0).wait wait).Sound :=
    Streamer.wait_sound (Streamer.start_sound _ _ _) wait
  have hroom : 1 + os.length * 0 ≤ maxItems := by
    rw [Nat.mul_zero]
    decide
  obtain ⟨es, st, h, -⟩ := Streamer.record_ok (s := .byDay) os _ hsound hroom
  exact ⟨es, st, h⟩

theorem Streamer.record_inStep_byDay : ∃ es st,
    Streamer.ofSettings .byDay = .ok .byDay ∧
      Streamer.byDay.record Occasion.twoDays ((Streamer.byDay.start .single 0).wait 5) =
        .ok (es, st) ∧
      es.length = 2 ∧ ∀ (k : Nat) (e : Episode), es[k]? = some e →
        ¬ e.Restarted ∧ e.run.window.InStep (Instant.zero.plus 5) 86400000 k := by
  obtain ⟨es, st, h⟩ := byDay_record Occasion.twoDays 5
  have hprompt : ∀ b, Surroundings.twoEvents.sink.latency b = 0 := fun _ => rfl
  have hos : ∀ o ∈ Occasion.twoDays, o.wait = 0 ∧ o.around.OnTime .zero ∧
      ∀ b, o.around.sink.latency b = 0 := by
    simp [Occasion.twoDays, Surroundings.twoEvents_onTime, hprompt]
  exact ⟨es, st, byDay_ofSettings, h, Streamer.record_inStep byDay_ofSettings rfl rfl rfl (by decide)
    .single 0 5 .zero h hos (by decide)⟩

end ShopTraffic
