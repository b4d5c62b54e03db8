import Mathlib
import ShopTraffic.Proofs.Acceptance
import ShopTraffic.Proofs.Cadence
import ShopTraffic.Proofs.WindowSequence

/-!
# The population of a stream

The population changes when a window starts on another day than the window before, and only then:
newcomers take the places behind the others, and the active users are drawn. Windows never start on an
earlier day than those before, so a day that is over does not come back.

* `dayChanges`, `Episode.day`, `StreamState.activeUsers` — days that change, the day of a window and
  the users who are active on it;
* `Episode.Populates`, `runWindow_populates` — what one window does to the population;
* `Recorded.sizes`, `Recorded.drawn`, `Recorded.steady` — what that makes of a history;
* `Populated`, `record_populated` — the population over all windows of a stream.
-/

set_option autoImplicit false

namespace ShopTraffic

open Chance

/-! ## Days and active users -/

theorem Day.eq_of_number_eq {d d' : Day} (h : d.number = d'.number) : d = d' := by
  cases d
  cases d'
  cases h
  rfl

/-- How often a day differs from the one before. -/
def dayChanges : List Day → Nat
  | d :: d' :: days => (if d = d' then 0 else 1) + dayChanges (d' :: days)
  | _ => 0

theorem dayChanges_snoc (d d' : Day) : ∀ days : List Day,
    dayChanges (days ++ [d, d']) = dayChanges (days ++ [d]) + if d = d' then 0 else 1
  | [] => Nat.add_comm _ _
  | [_] => by
    simp only [List.cons_append, List.nil_append, dayChanges]
    omega
  | _ :: d₁ :: days => by
    have hrest := dayChanges_snoc d d' (d₁ :: days)
    simp only [List.cons_append, dayChanges] at hrest ⊢
    omega

/-- The day on which the window of an episode starts. -/
def Episode.day (e : Episode) : Day := e.run.window.start.day

/-- The users who are active. -/
def StreamState.activeUsers (st : StreamState) : List User := st.population.select st.active

/-! ## One window -/

/-- What a window does to the population and the active users. -/
structure Episode.Populates (e : Episode) (s : Streamer) : Prop where
  day : e.run.state.day = some e.day
  kept : e.before.population.places <+: e.run.state.population.places
  sound : e.run.state.Sound
  /-- In the course of a day nobody joins, and the active users remain. -/
  sameDay : e.before.day = some e.day →
    e.run.state.population.places = e.before.population.places ∧
      e.run.state.active = e.before.active
  /-- On a new day newcomers join, unless it is the first day, and the active users are drawn. -/
  newDay : e.before.day ≠ some e.day →
    e.run.state.population.size = e.before.population.size +
        (if e.before.day.isSome then s.settings.workload.newUsersPerDay else 0) ∧
      ∃ d ∈ s.activeCount.values, e.run.state.active.length = min d e.run.state.population.size

namespace Streamer

variable {s : Streamer} {around : Surroundings} {st st' : StreamState} {os : List Occasion}
  {es : List Episode}

theorem day_beginDay (s : Streamer) (today : Day) (st : StreamState) :
    (s.beginDay today st).day = some today := by
  unfold beginDay
  split
  · assumption
  · rfl

theorem runWindow_day (s : Streamer) (around : Surroundings) (st : StreamState) :
    (s.runWindow around st).state.day = (s.opened around st).day := by
  obtain ⟨_, _, h⟩ := s.runWindow_eq around st
  rw [h]
  rfl

theorem opened_day (s : Streamer) (around : Surroundings) (st : StreamState) :
    (s.opened around st).day = some (s.opening around st).start.day := by
  unfold opened
  exact s.day_beginDay _ _

/-- A window on the day of the last one opens as that one ended. -/
theorem opened_sameDay (h : st.day = some (s.opening around st).start.day) :
    (s.opened around st).population = st.population ∧ (s.opened around st).active = st.active := by
  have hday : (st.notify (s.nextWindow st (around.clock.read st.elapsed)).2).day =
      some (s.opening around st).start.day := h
  unfold opened beginDay
  rw [if_pos hday]
  exact ⟨rfl, rfl⟩

/-- A window on another day opens with newcomers, unless it is the first one, and with active users that
are drawn for the day. -/
theorem opened_newDay (h : st.day ≠ some (s.opening around st).start.day) :
    (s.opened around st).population.size = st.population.size +
        (if st.day.isSome then s.settings.workload.newUsersPerDay else 0) ∧
      ∃ d ∈ s.activeCount.values,
        (s.opened around st).active.length = min d (s.opened around st).population.size := by
  have hday : (st.notify (s.nextWindow st (around.clock.read st.elapsed)).2).day ≠
      some (s.opening around st).start.day := h
  have hlength := s.length_active_beginDay hday
  constructor
  · rw [size_opened]
    unfold newcomers
    simp only [h, ne_eq, not_false_eq_true, and_true]
  · unfold opened
    exact hlength

/-- **What one window does to the population.** -/
theorem runWindow_populates (s : Streamer) (around : Surroundings) (h : st.Sound) :
    Episode.Populates ⟨around, st, s.runWindow around st⟩ s := by
  have hplaces : (s.runWindow around st).state.population.places =
      (s.opened around st).population.places := runWindow_places h
  have hsize : (s.runWindow around st).state.population.size =
      (s.opened around st).population.size := size_runWindow h
  constructor
  · unfold Episode.day
    simp only [runWindow_window]
    rw [runWindow_day, opened_day]
  · rw [hplaces]
    exact s.opened_population around st
  · exact runWindow_sound h
  · unfold Episode.day
    simp only [runWindow_window]
    intro hday
    obtain ⟨hpopulation, hactive⟩ := opened_sameDay hday
    rw [hplaces, runWindow_active, hpopulation, hactive]
    exact ⟨rfl, rfl⟩
  · unfold Episode.day
    simp only [runWindow_window]
    intro hday
    rw [runWindow_active, hsize]
    exact opened_newDay hday

namespace Recorded

/-! ## All windows -/

theorem populates (h : s.Recorded st os es st') (hsound : st.Sound) :
    ∀ e ∈ es, e.Populates s :=
  h.forall_episode hsound fun around _ hst => s.runWindow_populates around hst

/-- A window begins with the population and the active users of the window before. -/
theorem handsOn (h : s.Recorded st os es st') (hsound : st.Sound) {k : Nat} {e e' : Episode}
    (he : es[k]? = some e) (he' : es[k + 1]? = some e') :
    e'.before.day = some e.day ∧ e'.before.population = e.run.state.population ∧
      e'.before.active = e.run.state.active := by
  obtain ⟨o, -, hbefore⟩ := h.next he he'
  rw [hbefore]
  exact ⟨(h.populates hsound e (List.mem_of_getElem? he)).day, rfl, rfl⟩

/-- Nobody ever loses a place. -/
theorem kept (h : s.Recorded st os es st') (hsound : st.Sound) :
    (st.population.places :: es.map (·.run.state.population.places)).Pairwise (· <+: ·) := by
  induction h with
  | nil => exact List.pairwise_singleton _ _
  | @cons st st' o os es _ ih =>
    have hwait : (st.wait o.wait).Sound := wait_sound hsound o.wait
    have hfirst := (s.runWindow_populates o.around hwait).kept
    have hrest := ih (runWindow_sound hwait)
    refine List.pairwise_cons.2 ⟨List.forall_mem_cons.2 ⟨hfirst, fun places hplaces => ?_⟩, hrest⟩
    exact hfirst.trans ((List.pairwise_cons.1 hrest).1 places hplaces)

/-- The population has grown as often as the day has changed. -/
theorem sizes (h : s.Recorded st os es st') (hsound : st.Sound) (hday : st.day = none) :
    ∀ (k : Nat) (e : Episode), es[k]? = some e →
      e.run.state.population.size = st.population.size +
        s.settings.workload.newUsersPerDay * dayChanges ((es.take (k + 1)).map (·.day)) := by
  intro k
  induction k with
  | zero =>
    intro e he
    obtain ⟨o, -, hbefore⟩ := h.first he
    have hnone : e.before.day = none := by rw [hbefore]; exact hday
    obtain ⟨hsize, -⟩ := (h.populates hsound e (List.mem_of_getElem? he)).newDay (by simp [hnone])
    rw [hsize, hnone, hbefore, List.take_add_one, he]
    rfl
  | succ k ih =>
    intro e' he'
    obtain ⟨e, he⟩ := exists_getElem?_pred he'
    obtain ⟨hbefore, hpopulation, -⟩ := h.handsOn hsound he he'
    have hpopulates := h.populates hsound e' (List.mem_of_getElem? he')
    have hdays : (es.take (k + 1 + 1)).map (·.day) = (es.take k).map (·.day) ++ [e.day, e'.day] := by
      rw [List.take_add_one, List.take_add_one, he, he']
      simp
    have hdays' : (es.take (k + 1)).map (·.day) = (es.take k).map (·.day) ++ [e.day] := by
      rw [List.take_add_one, he]
      simp
    have hsize := ih e he
    rw [hdays'] at hsize
    rw [hdays, dayChanges_snoc, Nat.mul_add, ← Nat.add_assoc, ← hsize, ← hpopulation]
    by_cases hsame : e.day = e'.day
    · rw [if_pos hsame, Nat.mul_zero, Nat.add_zero, Population.size_eq, Population.size_eq,
        (hpopulates.sameDay (hbefore.trans (congrArg some hsame))).1]
    · have hnew : e'.before.day ≠ some e'.day := by
        rw [hbefore]
        exact fun heq => hsame (Option.some.inj heq)
      rw [if_neg hsame, Nat.mul_one, (hpopulates.newDay hnew).1, hbefore]
      rfl

/-- As many users are active as were drawn, or all. -/
theorem drawn (h : s.Recorded st os es st') (hsound : st.Sound) (hday : st.day = none) :
    ∀ (k : Nat) (e : Episode), es[k]? = some e →
      ∃ d ∈ s.activeCount.values, e.run.state.active.length = min d e.run.state.population.size := by
  intro k
  induction k with
  | zero =>
    intro e he
    obtain ⟨o, -, hbefore⟩ := h.first he
    have hnone : e.before.day = none := by rw [hbefore]; exact hday
    exact ((h.populates hsound e (List.mem_of_getElem? he)).newDay (by simp [hnone])).2
  | succ k ih =>
    intro e' he'
    obtain ⟨e, he⟩ := exists_getElem?_pred he'
    obtain ⟨hbefore, hpopulation, hactive⟩ := h.handsOn hsound he he'
    have hpopulates := h.populates hsound e' (List.mem_of_getElem? he')
    by_cases hsame : e'.before.day = some e'.day
    · obtain ⟨hplaces, hactive'⟩ := hpopulates.sameDay hsame
      rw [hactive', hactive, Population.size_eq, hplaces, hpopulation, ← Population.size_eq]
      exact ih e he
    · exact (hpopulates.newDay hsame).2

/-- No window starts on an earlier day than one before. -/
theorem day_le (h : s.Recorded st os es st') (hlast : st.last = none) {i d : Nat} {e e' : Episode}
    (he : es[i]? = some e) (he' : es[i + d]? = some e') : e.day.number ≤ e'.day.number := by
  have hwindows := h.windows (k := 0) rfl (.first hlast)
  have hlasts := fun i e he => (hwindows i e he).2
  cases d with
  | zero =>
    rw [Nat.add_zero, he] at he'
    cases he'
    exact Nat.le_refl _
  | succ d =>
    rw [Nat.add_comm d, ← Nat.add_assoc] at he'
    have hstart := (hlasts i e he).start_le_finish
    have hafter := h.finish_le_start hlasts he d e' he'
    exact Nat.div_le_div_right (Nat.le_trans hstart hafter)

/-- **In the course of a day** the population and the active users stay the same. -/
theorem steady (h : s.Recorded st os es st') (hsound : st.Sound) (hlast : st.last = none) {i : Nat}
    {e : Episode} (he : es[i]? = some e) :
    ∀ (d : Nat) (e' : Episode), es[i + d]? = some e' → e.day = e'.day →
      e'.run.state.population.places = e.run.state.population.places ∧
        e'.run.state.active = e.run.state.active := by
  intro d
  induction d with
  | zero =>
    intro e' he' _
    rw [Nat.add_zero, he] at he'
    cases he'
    exact ⟨rfl, rfl⟩
  | succ d ih =>
    intro e' he' hday
    obtain ⟨m, hm⟩ := exists_getElem?_pred he'
    -- A day that is over does not come back, so the window before starts on the same day.
    have hbetween : e.day = m.day ∧ m.day = e'.day := by
      have hle := h.day_le hlast he hm
      have hle' := h.day_le (d := 1) hlast hm he'
      rw [← hday] at hle' ⊢
      exact ⟨Day.eq_of_number_eq (by omega), Day.eq_of_number_eq (by omega)⟩
    obtain ⟨hplaces, hactive⟩ := ih m hm hbetween.1
    obtain ⟨hbefore, hpopulation, hactive'⟩ := h.handsOn hsound hm he'
    obtain ⟨hplaces', hactive''⟩ := (h.populates hsound e' (List.mem_of_getElem? he')).sameDay
      (hbefore.trans (congrArg some hbetween.2))
    rw [hplaces', hpopulation, hplaces, hactive'', hactive', hactive]
    exact ⟨rfl, rfl⟩

end Recorded

end Streamer

/-! ## The population of a stream -/

/-- The population and the active users over the windows of a stream. -/
structure Populated (c : Settings) (population : Population) (es : List Episode) : Prop where
  /-- Nobody leaves, and nobody changes places. -/
  kept : (population.places :: es.map (·.run.state.population.places)).Pairwise (· <+: ·)
  /-- Newcomers have joined as often as the day has changed. -/
  size : ∀ (k : Nat) (e : Episode), es[k]? = some e →
    e.run.state.population.size = population.size +
      c.workload.newUsersPerDay * dayChanges ((es.take (k + 1)).map (·.day))
  /-- The active users are different members of the population. -/
  members : ∀ e ∈ es, (e.run.state.activeUsers.map (·.seat)).Nodup ∧
    ∀ u ∈ e.run.state.activeUsers, u ∈ e.run.state.population.users.toList
  /-- As many users are active as were drawn, or all there are. -/
  drawn : ∀ e ∈ es, ∃ d ∈ c.workload.activeChoices,
    e.run.state.activeUsers.length = min d e.run.state.population.size
  /-- In the course of a day nobody joins, and the same users are active. -/
  steady : ∀ e ∈ es, ∀ e' ∈ es, e.day = e'.day →
    e.run.state.population.places = e'.run.state.population.places ∧
      e.run.state.activeUsers.map (·.place) = e'.run.state.activeUsers.map (·.place)

namespace Streamer

/-- **The population of a stream**: in every history of a stream, from any population and any source
and whatever its clocks show, nobody is lost, newcomers join when the day changes, and the active users
are different members of the population, drawn once a day. -/
theorem record_populated {c : Settings} {s : Streamer} (hs : ofSettings c = .ok s)
    (population : Population) (source : Source) {os : List Occasion} {es : List Episode}
    {st : StreamState} (h : s.record os { population, source } = .ok (es, st)) :
    Populated c population es := by
  obtain ⟨hsettings, -, hcounts⟩ := settings_of_ofSettings hs
  have hrecorded := recorded_of_record h
  have hsound := fresh_sound population source
  have hpopulates := hrecorded.populates hsound
  have hseats : ∀ e ∈ es, e.run.state.activeUsers.map (·.seat) = e.run.state.active :=
    fun e he => Population.select_seats (hpopulates e he).sound.seated
  constructor
  · exact hrecorded.kept hsound
  · rw [← hsettings]
    exact hrecorded.sizes hsound rfl
  · intro e he
    refine ⟨?_, fun u hu => Population.mem_of_getElem? (Population.mem_select hu).1⟩
    rw [hseats e he]
    exact (hpopulates e he).sound.nodup
  · intro e he
    obtain ⟨k, hk⟩ := List.mem_iff_getElem?.1 he
    rw [← hcounts, ← List.length_map (·.seat), hseats e he]
    exact hrecorded.drawn hsound rfl k e hk
  · intro e he e' he' hday
    obtain ⟨i, hi⟩ := List.mem_iff_getElem?.1 he
    obtain ⟨j, hj⟩ := List.mem_iff_getElem?.1 he'
    unfold StreamState.activeUsers
    rw [Population.places_select, Population.places_select]
    rcases Nat.le_total i j with hij | hji
    · obtain ⟨d, rfl⟩ := Nat.exists_eq_add_of_le hij
      obtain ⟨hplaces, hactive⟩ := hrecorded.steady hsound rfl hi d e' hj hday
      rw [hplaces, hactive]
      exact ⟨rfl, rfl⟩
    · obtain ⟨d, rfl⟩ := Nat.exists_eq_add_of_le hji
      obtain ⟨hplaces, hactive⟩ := hrecorded.steady hsound rfl hj d e hi hday.symm
      rw [hplaces, hactive]
      exact ⟨rfl, rfl⟩

end Streamer

/-- Windows of a day, and two newcomers a day. -/
def Settings.growing : Settings :=
  { Settings.byDay with workload := { Settings.byDay.workload with newUsersPerDay := 2 } }

theorem Streamer.record_populated_growing : ∃ s es st, ofSettings .growing = .ok s ∧
    s.record Occasion.twoDays { population := .single, source := .ofSeed 0 } = .ok (es, st) ∧
      es.length = 2 ∧ Populated .growing .single es := by
  obtain ⟨s, hs⟩ := (ofSettings_judged .growing).exists_ok (by decide) (by decide)
  have hroom : Population.single.size +
      Occasion.twoDays.length * s.settings.workload.newUsersPerDay ≤ maxItems := by
    rw [(settings_of_ofSettings hs).1]
    decide
  obtain ⟨es, st, h, -⟩ := record_ok Occasion.twoDays _ (fresh_sound .single (.ofSeed 0)) hroom
  exact ⟨s, es, st, hs, h, (recorded_of_record h).length_eq, record_populated hs .single _ h⟩

end ShopTraffic
