import Mathlib
import ShopTraffic.Proofs.Cadence
import ShopTraffic.Proofs.Log

/-!
# The sequence of windows

A window takes its length from the window before, and where that one was cut off at the last instant
there is, it is too short. The windows of a stream have the length of its settings all the same: after
a window that was cut off there is no room for another one, and a stream never restarts there. So the
windows of a history are numbered from zero, none begins before the one before it ended, and there is a
gap exactly where the clock was more than a length late, whichever way it was set meanwhile.

* `Window.Lasts` — a window of a length; `Lasts.successor_eq` — its successor, for every reading;
* `StreamState.Awaits` — a state in which a window is next; `opening_of_awaits`, `runWindow_awaits`;
* `Episode.Follows` — how a window follows the one before; `InSequence` — the windows of a history;
* `record_inSequence` — every history, whatever its clocks show.
-/

set_option autoImplicit false

namespace ShopTraffic

/-! ## One window after another -/

namespace Window

/-- A window of `length` milliseconds, cut off at the last instant there is. -/
def Lasts (w : Window) (length : Nat) : Prop := w.finish = w.start.plus length

variable {w : Window} {length : Nat}

theorem lasts_ofLength (index : WindowIndex) (start : Instant) (length : Nat) :
    (ofLength index start length).Lasts length := rfl

theorem Lasts.eq_ofLength (h : w.Lasts length) : w = .ofLength w.index w.start length := by
  unfold Lasts at h
  unfold ofLength
  rw [← h]

theorem Lasts.start_le_finish (h : w.Lasts length) : w.start ≤ w.finish := by
  rw [h]
  exact Instant.le_plus _ _

/-- A window that is not cut off has its full length. -/
theorem Lasts.length_eq (h : w.Lasts length)
    (hend : w.start.millis + length ≤ 0xFFFFFFFFFFFFFFFF) : w.length = length := by
  unfold Window.length Instant.since
  rw [h, Instant.millis_plus]
  omega

/-- **The successor of a window**: it has the same length, and begins where the window ended, or at
the reading of the clock if that is more than a length later. -/
theorem Lasts.successor_eq (h : w.Lasts length) (now : Instant) :
    w.successor now =
      if w.finish.millis + length < now.millis then
        (.ofLength ⟨w.index.number + 1⟩ now length, true)
      else (.ofLength ⟨w.index.number + 1⟩ w.finish length, false) := by
  have hfinish : w.finish.millis = min (w.start.millis + length) 0xFFFFFFFFFFFFFFFF := by
    rw [h, Instant.millis_plus]
  have hnow := now.millis_lt
  unfold successor Window.length Instant.since
  by_cases hlate : w.finish.millis + length < now.millis
  · -- The reading lies beyond the window, so the window was not cut off.
    have hlength : w.finish.millis - w.start.millis = length := by omega
    have hbehind : length < now.millis - w.finish.millis := by omega
    rw [hlength]
    simp only [if_pos hlate, if_pos hbehind]
  · have hbehind : ¬ w.finish.millis - w.start.millis < now.millis - w.finish.millis := by omega
    have hplus : w.finish.plus (w.finish.millis - w.start.millis) = w.finish.plus length := by
      apply Instant.ext_millis
      rw [Instant.millis_plus, Instant.millis_plus]
      omega
    simp only [if_neg hlate, if_neg hbehind]
    unfold ofLength
    rw [hplus]

theorem Lasts.successor (h : w.Lasts length) (now : Instant) :
    (w.successor now).1.Lasts length := by
  rw [h.successor_eq]
  split
  · exact lasts_ofLength _ _ _
  · exact lasts_ofLength _ _ _

/-- A window is restarted exactly when the clock is more than a length late. -/
theorem Lasts.restarts_iff (h : w.Lasts length) (now : Instant) :
    (w.successor now).2 = true ↔ w.finish.millis + length < now.millis := by
  rw [h.successor_eq]
  split
  · rename_i hlate
    exact ⟨fun _ => hlate, fun _ => rfl⟩
  · rename_i hlate
    exact ⟨fun hfalse => (Bool.false_ne_true hfalse).elim, fun h => absurd h hlate⟩

theorem Lasts.successor_start (h : w.Lasts length) (now : Instant) :
    (w.successor now).1.start =
      if w.finish.millis + length < now.millis then now else w.finish := by
  rw [h.successor_eq]
  split
  · rfl
  · rfl

end Window

/-! ## The windows of a history -/

/-- A state in which window number `k` is next, after windows of one length. -/
inductive StreamState.Awaits (st : StreamState) (length : Nat) : Nat → Prop
  | first : st.last = none → Awaits st length 0
  | next {w : Window} {k : Nat} : st.last = some w → w.index = ⟨k⟩ → w.Lasts length →
    Awaits st length (k + 1)

/-- How the window of an episode follows that of the episode before: not before its end, with a gap
and restarted at the reading of the clock exactly when that is more than a length late. -/
structure Episode.Follows (e' e : Episode) (length : Nat) : Prop where
  after : e.run.window.finish ≤ e'.run.window.start
  gap : e.run.window.finish < e'.run.window.start ↔
    e.run.window.finish.millis + length < e'.now.millis
  restarted : e'.Restarted ↔ e.run.window.finish.millis + length < e'.now.millis
  start : e'.run.window.start =
    if e.run.window.finish.millis + length < e'.now.millis then e'.now else e.run.window.finish

namespace Streamer

/-- Windows in sequence: numbered from zero, of one length unless they are cut off at the last instant
there is, each following the one before, so that no instant lies in two of them. -/
structure InSequence (length : Nat) (es : List Episode) : Prop where
  window : ∀ (k : Nat) (e : Episode), es[k]? = some e →
    e.run.window = .ofLength ⟨k⟩ e.run.window.start length
  lasts : ∀ e ∈ es, e.run.window.start.millis + length ≤ 0xFFFFFFFFFFFFFFFF →
    e.run.window.length = length
  first : ∀ e, es[0]? = some e → e.run.window.start = e.now ∧ ¬ e.Restarted
  next : ∀ (k : Nat) (e e' : Episode), es[k]? = some e → es[k + 1]? = some e' →
    e'.Follows e length
  apart : ∀ (i j : Nat) (e e' : Episode) (t : Instant), es[i]? = some e → es[j]? = some e' →
    e.run.window.contains t → e'.run.window.contains t → i = j

variable {s : Streamer} {around : Surroundings} {st st' : StreamState} {length k : Nat}
  {os : List Occasion} {es : List Episode}

theorem opening_of_awaits (hlength : s.settings.window.wholeMillis = length)
    (h : st.Awaits length k) :
    (s.opening around st).index = ⟨k⟩ ∧ (s.opening around st).Lasts length := by
  unfold opening nextWindow
  cases h with
  | first hlast =>
    rw [hlast, hlength]
    exact ⟨rfl, Window.lasts_ofLength _ _ _⟩
  | @next w k hlast hindex hlasts =>
    rw [hlast]
    refine ⟨?_, hlasts.successor _⟩
    have hnumber := w.index_successor (around.clock.read st.elapsed)
    rw [hindex] at hnumber
    show (w.successor _).1.index = _
    generalize (w.successor (around.clock.read st.elapsed)).1.index = index at hnumber
    cases index
    exact congrArg WindowIndex.mk hnumber

/-- After every window the next one is awaited. -/
theorem runWindow_awaits (hlength : s.settings.window.wholeMillis = length)
    (h : st.Awaits length k) : (s.runWindow around st).state.Awaits length (k + 1) := by
  obtain ⟨hindex, hlasts⟩ := @opening_of_awaits s around st length k hlength h
  exact .next (runWindow_last s around st) hindex hlasts

namespace Recorded

/-- The windows of a history are numbered, and all have the length of the settings. -/
theorem windows (h : s.Recorded st os es st') (hlength : s.settings.window.wholeMillis = length)
    (hst : st.Awaits length k) :
    ∀ (i : Nat) (e : Episode), es[i]? = some e →
      e.run.window.index = ⟨k + i⟩ ∧ e.run.window.Lasts length := by
  induction h generalizing k with
  | nil st =>
    intro i e he
    cases he
  | @cons st st' o os es _ ih =>
    have hnow : (st.wait o.wait).Awaits length k := by
      cases hst with
      | first hlast => exact .first hlast
      | next hlast hindex hlasts => exact .next hlast hindex hlasts
    intro i e he
    cases i with
    | zero =>
      cases he
      rw [runWindow_window]
      exact opening_of_awaits hlength hnow
    | succ i =>
      have hindex : k + (i + 1) = k + 1 + i := by omega
      rw [hindex]
      exact ih (runWindow_awaits hlength hnow) i e he

/-- The window before is the last one, and the next one is its successor. -/
theorem window_next (h : s.Recorded st os es st') {i : Nat} {e e' : Episode}
    (he : es[i]? = some e) (he' : es[i + 1]? = some e') :
    e'.before.last = some e.run.window ∧
      e'.run.window = (e.run.window.successor e'.now).1 := by
  obtain ⟨o, -, hbefore⟩ := h.next he he'
  have hrun := h.run_eq e (List.mem_of_getElem? he)
  have hrun' := h.run_eq e' (List.mem_of_getElem? he')
  have hlast : e'.before.last = some e.run.window := by
    rw [hbefore, hrun, runWindow_window]
    exact runWindow_last s e.around e.before
  refine ⟨hlast, ?_⟩
  rw [hrun', runWindow_window]
  unfold opening nextWindow
  rw [hlast]
  rfl

/-- **A window follows the one before.** -/
theorem follows (h : s.Recorded st os es st') {i : Nat} {e e' : Episode} (he : es[i]? = some e)
    (he' : es[i + 1]? = some e') (hlasts : e.run.window.Lasts length) : e'.Follows e length := by
  obtain ⟨hlast, hwindow⟩ := h.window_next he he'
  have hstart := hlasts.successor_start e'.now
  rw [← hwindow] at hstart
  constructor
  · rw [hwindow]
    exact successor_start _ _
  · rw [hstart]
    split
    · rename_i hlate
      refine ⟨fun _ => hlate, fun _ => ?_⟩
      rw [Instant.lt_def]
      omega
    · rename_i hlate
      exact ⟨fun hlt => absurd hlt (Nat.lt_irrefl _), fun h => absurd h hlate⟩
  · unfold Episode.Restarted
    rw [hlast, ← hlasts.restarts_iff e'.now]
    constructor
    · rintro ⟨last, hsome, hrestarted⟩
      cases hsome
      exact hrestarted
    · intro hrestarted
      exact ⟨_, rfl, hrestarted⟩
  · exact hstart

/-- A window ends before any later one begins. -/
theorem finish_le_start (h : s.Recorded st os es st')
    (hlasts : ∀ (i : Nat) (e : Episode), es[i]? = some e → e.run.window.Lasts length) {i : Nat}
    {e : Episode} (he : es[i]? = some e) :
    ∀ (d : Nat) (e' : Episode), es[i + 1 + d]? = some e' →
      e.run.window.finish ≤ e'.run.window.start := by
  intro d
  induction d with
  | zero =>
    intro e' he'
    exact (h.follows he he' (hlasts i e he)).after
  | succ d ih =>
    intro e' he'
    obtain ⟨m, hmiddle⟩ := exists_getElem?_pred he'
    have hbefore := ih _ hmiddle
    have hduring := (hlasts _ _ hmiddle).start_le_finish
    have hafter := (h.follows hmiddle he' (hlasts _ _ hmiddle)).after
    exact Nat.le_trans hbefore (Nat.le_trans hduring hafter)

/-- No instant lies in two windows. -/
theorem apart (h : s.Recorded st os es st')
    (hlasts : ∀ (i : Nat) (e : Episode), es[i]? = some e → e.run.window.Lasts length) {i j : Nat}
    {e e' : Episode} {t : Instant} (he : es[i]? = some e) (he' : es[j]? = some e')
    (ht : e.run.window.contains t) (ht' : e'.run.window.contains t) : i = j := by
  have hlater : ∀ {i j : Nat} {e e' : Episode}, es[i]? = some e → es[j]? = some e' →
      e.run.window.contains t → e'.run.window.contains t → ¬ i < j := by
    intro i j e e' he he' ht ht' hij
    obtain ⟨d, rfl⟩ := Nat.exists_eq_add_of_le hij
    have hle := h.finish_le_start hlasts he d e' he'
    have hbefore := ((Window.contains_iff _ _).1 ht).2
    have hafter := ((Window.contains_iff _ _).1 ht').1
    rw [Instant.lt_def] at hbefore
    rw [Instant.le_def] at hle hafter
    omega
  rcases Nat.lt_trichotomy i j with hij | rfl | hij
  · exact absurd hij (hlater he he' ht ht')
  · rfl
  · exact absurd hij (hlater he' he ht' ht)

end Recorded

/-! ## Restarts on record -/

/-- What a window tells of its restart. -/
def restarts (s : Streamer) (e : Episode) : List (WindowIndex × Nat) :=
  (s.nextWindow e.before e.now).2.filterMap Notice.restart?

theorem mem_restarts {e : Episode} {x : WindowIndex × Nat} :
    x ∈ s.restarts e ↔ ∃ last, e.before.last = some last ∧ (last.successor e.now).2 = true ∧
      x = ((last.successor e.now).1.index, e.now.since last.finish) := by
  unfold restarts nextWindow
  cases e.before.last with
  | none => simp
  | some last =>
    simp only [Option.some.injEq, exists_eq_left']
    by_cases hrestarted : (last.successor e.now).2
    · simp [hrestarted, Notice.restart?]
    · simp [hrestarted]

namespace Recorded

/-- A history tells of the restarts of its windows and of no others. -/
theorem told_restarts (h : s.Recorded st os es st') :
    told Notice.restart? st'.books.notices =
      told Notice.restart? st.books.notices ++ es.flatMap s.restarts := by
  induction h with
  | nil st => exact (List.append_nil _).symm
  | @cons st st' o os es _ ih =>
    rw [ih, restart_runWindow, List.flatMap_cons, List.append_assoc]
    rfl

/-- A window is on record as restarted exactly when it was. -/
theorem restarted_iff (h : s.Recorded st os es st')
    (hlength : s.settings.window.wholeMillis = length) (hst : st.Awaits length k)
    (hbooks : told Notice.restart? st.books.notices = []) {e : Episode} (he : e ∈ es) :
    e.Restarted ↔
      ∃ behind, (e.run.window.index, behind) ∈ told Notice.restart? st'.books.notices := by
  have hopening : ∀ e ∈ es, ∀ last, e.before.last = some last →
      e.run.window.index = (last.successor e.now).1.index := by
    intro e he last hlast
    rw [h.run_eq e he, runWindow_window]
    unfold opening nextWindow
    rw [hlast]
    rfl
  rw [h.told_restarts, hbooks, List.nil_append]
  simp only [List.mem_flatMap, mem_restarts]
  constructor
  · rintro ⟨last, hlast, hrestarted⟩
    exact ⟨_, e, he, last, hlast, hrestarted, by rw [hopening e he last hlast]⟩
  · rintro ⟨behind, e', he', last, hlast, hrestarted, heq⟩
    -- Windows have different numbers, so the one on record is this one.
    obtain ⟨i, hi⟩ := List.mem_iff_getElem?.1 he
    obtain ⟨j, hj⟩ := List.mem_iff_getElem?.1 he'
    have hindex : e.run.window.index = e'.run.window.index :=
      (congrArg Prod.fst heq).trans (hopening e' he' last hlast).symm
    rw [(h.windows hlength hst i e hi).1, (h.windows hlength hst j e' hj).1] at hindex
    have hij : i = j := by
      have hnumber := congrArg WindowIndex.number hindex
      simp only at hnumber
      omega
    subst hij
    rw [hi] at hj
    cases hj
    exact ⟨last, hlast, hrestarted⟩

end Recorded

/-- **The windows of a history are in sequence**, whatever its clocks show, and those on record as
restarted are those that were. -/
theorem record_inSequence (s : Streamer) (population : Population) (entropy : Nat)
    {os : List Occasion} {es : List Episode} {st : StreamState}
    (h : s.record os (s.start population entropy) = .ok (es, st)) :
    InSequence s.settings.window.wholeMillis es ∧
      ∀ e ∈ es, e.Restarted ↔
        ∃ behind, (e.run.window.index, behind) ∈ told Notice.restart? st.books.notices := by
  have hrecorded := recorded_of_record h
  have hstart : (s.start population entropy).Awaits s.settings.window.wholeMillis 0 := .first rfl
  have hwindows := hrecorded.windows rfl hstart
  have hlasts := fun i e he => (hwindows i e he).2
  refine ⟨?_, fun e he => hrecorded.restarted_iff rfl hstart rfl he⟩
  constructor
  · intro k e he
    obtain ⟨hindex, hlength⟩ := hwindows k e he
    rw [Nat.zero_add] at hindex
    rw [← hindex]
    exact hlength.eq_ofLength
  · intro e he hend
    obtain ⟨i, hi⟩ := List.mem_iff_getElem?.1 he
    exact (hlasts i e hi).length_eq hend
  · intro e he
    obtain ⟨o, -, hbefore⟩ := hrecorded.first he
    have hlast : e.before.last = none := by
      rw [hbefore]
      rfl
    constructor
    · rw [hrecorded.run_eq e (List.mem_of_getElem? he), runWindow_window]
      unfold opening nextWindow
      rw [hlast]
      rfl
    · rintro ⟨last, hsome, -⟩
      rw [hlast] at hsome
      cases hsome
  · intro k e e' he he'
    exact hrecorded.follows he he' (hlasts k e he)
  · intro i j e e' t he he' ht ht'
    exact hrecorded.apart hlasts he he' ht ht'

end Streamer

/-- The surroundings of the small stream with a clock that shows one instant. -/
def Surroundings.showing (now : Instant) : Surroundings :=
  { Surroundings.twoEvents with clock := { read := fun _ => now, horizon := fun _ => 0 } }

/-- Three windows of the small stream, whose clock is set back by two days after the first one and on
by three weeks after the second. -/
def Occasion.resetClocks : List Occasion :=
  [{ around := .showing (.cap 432000000) }, { around := .showing (.cap 259200000) },
    { around := .showing (.cap 2073600000) }]

namespace Streamer

theorem record_inSequence_daily : ∃ es st e, daily.record Occasion.resetClocks
      (daily.start .single 0) = .ok (es, st) ∧
    InSequence daily.settings.window.wholeMillis es ∧ es[2]? = some e ∧ e.Restarted ∧
      ∃ behind, (e.run.window.index, behind) ∈ told Notice.restart? st.books.notices := by
  obtain ⟨es, st, h, -⟩ := record_ok (s := daily) Occasion.resetClocks (daily.start .single 0)
    (start_sound _ _ _) (by decide)
  obtain ⟨hsequence, htold⟩ := record_inSequence daily .single 0 h
  have hrecorded := recorded_of_record h
  obtain ⟨e₀, e₁, e₂, rfl⟩ := List.length_eq_three.1 hrecorded.length_eq
  have haround := hrecorded.around
  simp only [Occasion.resetClocks, List.map_cons, List.map_nil, List.cons.injEq, and_true] at haround
  obtain ⟨haround₀, haround₁, haround₂⟩ := haround
  have hnow₀ : e₀.now = .cap 432000000 := by unfold Episode.now; rw [haround₀]; rfl
  have hnow₁ : e₁.now = .cap 259200000 := by unfold Episode.now; rw [haround₁]; rfl
  have hnow₂ : e₂.now = .cap 2073600000 := by unfold Episode.now; rw [haround₂]; rfl
  have hfinish₀ : e₀.run.window.finish = .cap 518400000 := by
    rw [hsequence.window 0 e₀ rfl, (hsequence.first e₀ rfl).1, hnow₀]
    decide
  have hfinish₁ : e₁.run.window.finish = .cap 604800000 := by
    rw [hsequence.window 1 e₁ rfl, (hsequence.next 0 e₀ e₁ rfl rfl).start, hfinish₀, hnow₁]
    decide
  have hrestarted : e₂.Restarted := by
    rw [(hsequence.next 1 e₁ e₂ rfl rfl).restarted, hfinish₁, hnow₂]
    decide
  exact ⟨_, st, e₂, h, hsequence, rfl, hrestarted, (htold e₂ (by simp)).1 hrestarted⟩

end Streamer

end ShopTraffic
