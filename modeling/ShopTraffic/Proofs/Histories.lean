import Mathlib
import ShopTraffic.Proofs.Limits

/-!
# Histories, window by window

A history runs from a sound state to a sound state, and its population only grows; so identities that
differ at its end differed in every window, and what every such window preserves holds at the end.

* `Streamer.Recorded`, `recorded_of_record` — a history as a relation, for proofs by induction;
* `Recorded.places` — users keep their places; `Recorded.preserves_past`, `Recorded.preserves` — an
  invariant of windows holds at the end of a history, and what every window does is so of every
  episode;
* `record_ok` — a history goes on while its newcomers find room.
-/

set_option autoImplicit false

namespace ShopTraffic

open Chance

/-- Where there is a next element there is one before. -/
theorem exists_getElem?_pred {α : Type} {xs : List α} {k : Nat} {x : α} (h : xs[k + 1]? = some x) :
    ∃ y, xs[k]? = some y := by
  have hlt := (List.getElem?_eq_some_iff.1 h).1
  exact ⟨xs[k], List.getElem?_eq_getElem (Nat.lt_of_succ_lt hlt)⟩

namespace Streamer

/-- A history, one window after the other. -/
inductive Recorded (s : Streamer) : StreamState → List Occasion → List Episode → StreamState → Prop
  | nil (st : StreamState) : Recorded s st [] [] st
  | cons {st st' : StreamState} {o : Occasion} {os : List Occasion} {es : List Episode} :
    Recorded s (s.runWindow o.around (st.wait o.wait)).state os es st' →
    Recorded s st (o :: os) (⟨o.around, st.wait o.wait, s.runWindow o.around (st.wait o.wait)⟩ :: es)
      st'

variable {s : Streamer} {os : List Occasion} {es : List Episode} {st st' : StreamState}

theorem recorded_of_record :
    ∀ {os : List Occasion} {st : StreamState} {es : List Episode},
      s.record os st = .ok (es, st') → s.Recorded st os es st'
  | [], st, es, h => by
    simp only [record, Except.ok.injEq, Prod.mk.injEq] at h
    obtain ⟨rfl, rfl⟩ := h
    exact .nil st
  | o :: os, st, es, h => by
    obtain ⟨run, rest, hrun, hrest, rfl⟩ := record_cons_eq_ok_iff.1 h
    obtain ⟨-, rfl⟩ := step_eq_ok_iff.1 hrun
    exact .cons (recorded_of_record hrest)

namespace Recorded

/-- The windows of a history meet what it has in store for them, one after the other. -/
theorem around (h : s.Recorded st os es st') : es.map (·.around) = os.map (·.around) := by
  induction h with
  | nil => rfl
  | cons _ ih => rw [List.map_cons, List.map_cons, ih]

theorem length_eq (h : s.Recorded st os es st') : es.length = os.length := by
  have hlength := congrArg List.length h.around
  rwa [List.length_map, List.length_map] at hlength

theorem forall_around (h : s.Recorded st os es st') {P : Surroundings → Prop}
    (hos : ∀ o ∈ os, P o.around) : ∀ e ∈ es, P e.around := by
  intro e he
  have hmem : e.around ∈ os.map (·.around) := h.around ▸ List.mem_map_of_mem he
  obtain ⟨o, ho, heq⟩ := List.mem_map.1 hmem
  exact heq ▸ hos o ho

/-- The window of every episode was run in its surroundings from the state it began in. -/
theorem run_eq (h : s.Recorded st os es st') :
    ∀ e ∈ es, e.run = s.runWindow e.around e.before := by
  induction h with
  | nil => exact fun _ he => absurd he List.not_mem_nil
  | cons _ ih => exact List.forall_mem_cons.2 ⟨rfl, ih⟩

/-- The first window of a history begins where the history does, after a wait. -/
theorem first (h : s.Recorded st os es st') {e : Episode} (he : es[0]? = some e) :
    ∃ o ∈ os, e.before = st.wait o.wait := by
  cases h with
  | nil => cases he
  | @cons _ _ o _ _ _ =>
    cases he
    exact ⟨o, List.mem_cons_self, rfl⟩

/-- Every other window begins where the one before it ended, after a wait. -/
theorem next (h : s.Recorded st os es st') {k : Nat} {e e' : Episode} (he : es[k]? = some e)
    (he' : es[k + 1]? = some e') : ∃ o ∈ os, e'.before = e.run.state.wait o.wait := by
  induction h generalizing k with
  | nil => cases he
  | @cons _ _ _ os _ hrest ih =>
    have hlater : ∃ o ∈ os, e'.before = e.run.state.wait o.wait := by
      cases k with
      | zero =>
        cases he
        exact hrest.first he'
      | succ k => exact ih he he'
    obtain ⟨o, ho, hbefore⟩ := hlater
    exact ⟨o, List.mem_cons_of_mem _ ho, hbefore⟩

/-- A population only grows, so identities that differ at the end of a history differed all along. -/
theorem places (h : s.Recorded st os es st') (hsound : st.Sound) :
    st.population.places <+: st'.population.places := by
  induction h with
  | nil st => exact List.prefix_rfl
  | @cons st st' o _ _ _ ih =>
    have hwait : (st.wait o.wait).Sound := wait_sound hsound o.wait
    have hlater := ih (runWindow_sound hwait)
    rw [runWindow_places hwait] at hlater
    exact (opened_population s o.around (st.wait o.wait)).trans hlater

/-- A history leads to sound states. -/
theorem sound (h : s.Recorded st os es st') (hsound : st.Sound) : st'.Sound := by
  induction h with
  | nil => exact hsound
  | @cons _ _ o _ _ _ ih => exact ih (runWindow_sound (wait_sound hsound o.wait))

/-- What every window does from a sound state is so of every episode. -/
theorem forall_episode (h : s.Recorded st os es st') (hsound : st.Sound) {Q : Episode → Prop}
    (hwindow : ∀ around st, st.Sound → Q ⟨around, st, s.runWindow around st⟩) : ∀ e ∈ es, Q e := by
  induction h with
  | nil => exact fun _ he => absurd he List.not_mem_nil
  | @cons st st' o _ _ _ ih =>
    have hwait : (st.wait o.wait).Sound := wait_sound hsound o.wait
    exact List.forall_mem_cons.2
      ⟨hwindow o.around (st.wait o.wait) hwait, ih (runWindow_sound hwait)⟩

/-- Where identities differ at the end of a history they differ in its first window. -/
theorem distinct_opened {o : Occasion}
    (h : s.Recorded (s.runWindow o.around (st.wait o.wait)).state os es st') (hsound : st.Sound)
    (hp : st'.population.Distinct) : (s.opened o.around (st.wait o.wait)).population.Distinct := by
  have hwait : (st.wait o.wait).Sound := wait_sound hsound o.wait
  have hplaces := h.places (runWindow_sound hwait)
  rw [runWindow_places hwait] at hplaces
  exact hp.of_places hplaces

/-- **What waiting and every window preserve holds at the end of a history**, also where it is about
the episodes so far; and what every window does after the episodes before it is so of every episode. A
window may count on users with different identities and on what is known of its episode. -/
theorem preserves_past {P : List Episode → StreamState → Prop} {A : Episode → Prop}
    {Q : List Episode → Episode → Prop} (hwait : ∀ past st n, P past st → P past (st.wait n))
    (hwindow : ∀ past around st, st.Sound → (s.opened around st).population.Distinct → P past st →
      A ⟨around, st, s.runWindow around st⟩ →
      P (past ++ [⟨around, st, s.runWindow around st⟩]) (s.runWindow around st).state ∧
        Q past ⟨around, st, s.runWindow around st⟩)
    (h : s.Recorded st os es st') (hsound : st.Sound) (hp : st'.population.Distinct)
    (past : List Episode) (hst : P past st) (hes : ∀ e ∈ es, A e) :
    P (past ++ es) st' ∧ ∀ before e, before ++ [e] <+: es → Q (past ++ before) e := by
  induction h generalizing past with
  | nil st =>
    rw [List.append_nil]
    exact ⟨hst, fun before e hpre => absurd (List.prefix_nil.1 hpre) (by simp)⟩
  | @cons st st' o _ _ hrest ih =>
    obtain ⟨hfirst, hlater⟩ := List.forall_mem_cons.1 hes
    have hnow : (st.wait o.wait).Sound := wait_sound hsound o.wait
    obtain ⟨hafter, hepisode⟩ := hwindow past o.around (st.wait o.wait) hnow
      (hrest.distinct_opened hsound hp) (hwait past st o.wait hst) hfirst
    obtain ⟨hlast, hepisodes⟩ := ih (runWindow_sound hnow) hp _ hafter hlater
    rw [List.append_assoc, List.singleton_append] at hlast
    refine ⟨hlast, fun before e hpre => ?_⟩
    cases before with
    | nil =>
      obtain ⟨rfl, -⟩ := List.cons_prefix_cons.1 hpre
      rwa [List.append_nil]
    | cons first before =>
      obtain ⟨rfl, hrest⟩ := List.cons_prefix_cons.1 hpre
      rw [← List.singleton_append, ← List.append_assoc]
      exact hepisodes before e hrest

/-- What does not look back on the episodes so far is preserved as well. -/
theorem preserves {P : StreamState → Prop} {A Q : Episode → Prop}
    (hwait : ∀ st n, P st → P (st.wait n))
    (hwindow : ∀ around st, st.Sound → (s.opened around st).population.Distinct → P st →
      A ⟨around, st, s.runWindow around st⟩ →
      P (s.runWindow around st).state ∧ Q ⟨around, st, s.runWindow around st⟩)
    (h : s.Recorded st os es st') (hsound : st.Sound) (hp : st'.population.Distinct) (hst : P st)
    (hes : ∀ e ∈ es, A e) : P st' ∧ ∀ e ∈ es, Q e := by
  obtain ⟨hlast, hepisodes⟩ := h.preserves_past (P := fun _ => P) (Q := fun _ => Q)
    (fun _ => hwait) (fun _ => hwindow) hsound hp [] hst hes
  refine ⟨hlast, fun e he => ?_⟩
  obtain ⟨before, after, rfl⟩ := List.append_of_mem he
  exact hepisodes before e ⟨after, by simp⟩

end Recorded

/-- **A history goes on while its newcomers find room.** -/
theorem record_ok :
    ∀ (os : List Occasion) (st : StreamState), st.Sound →
      st.population.size + os.length * s.settings.workload.newUsersPerDay ≤ maxItems →
      ∃ es st', s.record os st = .ok (es, st') ∧ st'.population.size ≤
        st.population.size + os.length * s.settings.workload.newUsersPerDay
  | [], st, _, _ => ⟨[], st, rfl, Nat.le_add_right _ _⟩
  | o :: os, st, h, hroom => by
    have hwait : (st.wait o.wait).Sound := wait_sound h o.wait
    have hnew := newcomers_le s (s.opening o.around (st.wait o.wait)).start.day (st.wait o.wait)
    have hsize := size_opened_le s o.around (st.wait o.wait)
    have hpopulation : (st.wait o.wait).population = st.population := rfl
    rw [List.length_cons, Nat.succ_mul] at hroom ⊢
    rw [hpopulation, ← size_runWindow hwait] at hsize
    have hstep : s.step o.around (st.wait o.wait) = .ok (s.runWindow o.around (st.wait o.wait)) := by
      refine step_eq_ok_iff.2 ⟨?_, rfl⟩
      rw [hpopulation]
      unfold opening at hnew
      omega
    obtain ⟨es, st', hrecord, hle⟩ := record_ok os (s.runWindow o.around (st.wait o.wait)).state
      (runWindow_sound hwait) (by omega)
    exact ⟨_, st', record_cons_eq_ok_iff.2 ⟨_, es, hstep, hrecord, rfl⟩, by omega⟩

end Streamer

/-! ## A small stream -/

/-- A stream whose windows last a day, with one session a day for everyone. Nobody joins. -/
def Streamer.daily : Streamer where
  settings :=
    { window := .ofSeconds 86400, poll := .ofSeconds 36000, shards := 1
      workload := { newUsersPerDay := 0 } }
  planner := ⟨⟨[1], by decide⟩, ⟨[(0, 1)], by decide⟩, ⟨[0], by decide⟩⟩
  activeCount := ⟨[1], by decide⟩
  interval := ⟨36000000, by decide⟩

/-- Sessions of two events, the second one late on the day, on a clock that keeps time. -/
def Surroundings.twoEvents : Surroundings where
  generator user start source :=
    { events := [{ type := "begin", time := start },
        { type := "end", time := start.dayStart.plus 80000000 }], user, source }
  sink := .accepting
  clock := .startingAt .zero

/-- A population of one user. -/
def Population.single : Population :=
  .ofUsers [⟨.ofNat 1, .web, ⟨"Mozilla", "Firefox", "121.0", 1536, 864, "en_US", "1.1.1.1"⟩, 0,
    .zero, 0, 0, 0⟩]

theorem Surroundings.twoEvents_quiet : Surroundings.twoEvents.Quiet := by
  refine ⟨fun _ _ _ _ hstop => ?_, fun _ => rfl⟩
  cases hstop

/-- Two windows of the small stream. -/
def Occasion.twoDays : List Occasion := [{ around := .twoEvents }, { around := .twoEvents }]

theorem Streamer.daily_record : ∃ es st,
    Streamer.daily.record Occasion.twoDays (Streamer.daily.start .single 0) = .ok (es, st) ∧
      st.population.size ≤ 1 :=
  record_ok _ _ (start_sound _ _ _) (by decide)

theorem Streamer.daily_emits (w : Window) (user : User) (source : Source) :
    (generateUser Streamer.daily.planner Surroundings.twoEvents.generator w user
      source).events.length ≤ 2 := by
  refine generateUser_length_le (m := 1) (n := 2) (fun c hc => ?_) (fun _ _ _ => ?_) w user source
  · rw [List.mem_singleton.1 hc]
  · exact Nat.le_refl 2

end ShopTraffic
