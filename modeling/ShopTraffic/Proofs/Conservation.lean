import Mathlib
import ShopTraffic.Proofs.Histories

/-!
# Conservation of events

Every event that a build keeps is handed over or waits in the backlog, and nothing else is or does,
in every history without a crash. Builds that fail, carried events of users who are not active, days
that change and windows that restart are all part of such histories; so are users of one identity.

* `tasks_events`, `reports_events` — one window, task by task and as a whole; `coe_attempts_events`,
  `coe_returned_events`, `coe_carried_events` — where the events of its tasks stand;
* `Recorded.events`, `Recorded.counts` — a history; `record_conserves` — a history from the start of a
  stream;
* `Recorded.calm` — where no collaborator crashes no task does, if its events can be counted.
-/

set_option autoImplicit false

namespace ShopTraffic

namespace Streamer

variable {s : Streamer} {around : Surroundings} {st st' : StreamState}

/-- The tasks of a window lose no event, whatever way they go. -/
theorem tasks_events (s : Streamer) (around : Surroundings) (st : StreamState) :
    ∀ ts : List Task, (∀ t ∈ ts, (s.reportOf around st t).crashed = false) →
      ((ts.flatMap fun t => (s.reportOf around st t).attempts.flatMap (·.batch.events) : List Event) :
          Multiset Event) +
          (ts.flatMap fun t => (s.reportOf around st t).returned.flatMap (·.events) : List Event) =
        (ts.flatMap fun t => t.intakes.flatMap (·.carried) : List Event) +
          (ts.flatMap fun t => t.kept s.planner around.generator (s.opening around st) : List Event)
  | [], _ => rfl
  | t :: ts, h => by
    obtain ⟨ht, hts⟩ := List.forall_mem_cons.1 h
    have htask := (performed s around st t).events ht
    have hrest := tasks_events s around st ts hts
    simp only [List.flatMap_cons, ← Multiset.coe_add]
    calc _ = (((s.reportOf around st t).attempts.flatMap (·.batch.events) : List Event) +
            ((s.reportOf around st t).returned.flatMap (·.events) : List Event)) +
          ((ts.flatMap fun t => (s.reportOf around st t).attempts.flatMap (·.batch.events) :
              List Event) +
            (ts.flatMap fun t => (s.reportOf around st t).returned.flatMap (·.events) :
              List Event) : Multiset Event) := by abel
      _ = _ := by rw [htask, hrest]; abel

/-- What a window hands over is what its tasks do, in another order. -/
theorem coe_attempts_events (s : Streamer) (around : Surroundings) (st : StreamState) :
    (((s.attempts around st).flatMap (·.batch.events) : List Event) : Multiset Event) =
      ((s.tasks around st).flatMap fun t =>
        (s.reportOf around st t).attempts.flatMap (·.batch.events) : List Event) := by
  have hperm := (attempts_perm s around st).flatMap_right fun a => a.batch.events
  rw [reports, List.flatMap_map, List.flatMap_assoc] at hperm
  exact Multiset.coe_eq_coe.2 hperm

/-- What a window leaves in the backlog is what its tasks return. -/
theorem coe_returned_events (s : Streamer) (around : Surroundings) (st : StreamState) :
    ((s.runWindow around st).state.backlog.events : Multiset Event) =
      ((s.tasks around st).flatMap fun t =>
        (s.reportOf around st t).returned.flatMap (·.events) : List Event) := by
  have hbacklog := coe_heldFor_runWindow s around st fun _ => true
  rw [heldFor_true, heldFor_true, reports, List.flatMap_map, List.flatMap_assoc] at hbacklog
  exact hbacklog

/-- The tasks of a window take in what the backlog holds. -/
theorem coe_carried_events (h : st.Sound) :
    (((s.tasks around st).flatMap fun t => t.intakes.flatMap (·.carried) : List Event) :
      Multiset Event) = st.backlog.events := by
  have hopened : (s.opened around st).Sound := opened_sound h
  have hintakes := coe_allIntakes (s := s) hopened.backlog
  rw [opened_backlog, ← task_intakes, List.flatMap_assoc] at hintakes
  exact hintakes

/-- **One window**: what was held and what is new is handed over or held. -/
theorem reports_events (h : st.Sound)
    (hcalm : ∀ t ∈ s.tasks around st, (s.reportOf around st t).crashed = false) :
    (((s.attempts around st).flatMap (·.batch.events) : List Event) : Multiset Event) +
        (s.runWindow around st).state.backlog.events =
      st.backlog.events + (s.newlyKept around st : Multiset Event) := by
  rw [coe_attempts_events, coe_returned_events, tasks_events s around st _ hcalm,
    coe_carried_events h]
  rfl

/-- The new events of a window are counted as generated. -/
theorem reports_generated
    (hcalm : ∀ t ∈ s.tasks around st, (s.reportOf around st t).crashed = false) :
    totalOf (·.generated) ((s.reports around st).filterMap (·.tally?)) =
      (s.newlyKept around st).length := by
  unfold reports newlyKept
  generalize s.tasks around st = ts at hcalm ⊢
  induction ts with
  | nil => rfl
  | cons t ts ih =>
    obtain ⟨ht, hts⟩ := List.forall_mem_cons.1 hcalm
    have htask := (performed s around st t).generated ht
    rw [List.map_cons, List.flatMap_cons, List.length_append, ← ih hts, ← htask,
      List.filterMap_cons]
    cases (s.reportOf around st t).tally? with
    | none => simp
    | some tally => simp

theorem episode_kept (s : Streamer) (around : Surroundings) (st : StreamState) :
    Episode.kept s ⟨around, st, s.runWindow around st⟩ = s.newlyKept around st := by
  unfold Episode.kept newlyKept
  simp only [runWindow_reports, runWindow_window]
  rw [reports, List.flatMap_map]
  congr 1
  funext t
  rw [(performed s around st t).task_eq]

theorem episode_calm (s : Streamer) (around : Surroundings) (st : StreamState) :
    Episode.calm ⟨around, st, s.runWindow around st⟩ ↔
      ∀ t ∈ s.tasks around st, (s.reportOf around st t).crashed = false := by
  unfold Episode.calm
  simp only [runWindow_reports]
  rw [reports, List.all_map, List.all_eq_true]
  simp

theorem recorded_of_calm
    (hcalm : ∀ t ∈ s.tasks around st, (s.reportOf around st t).crashed = false) :
    ∀ a ∈ s.attempts around st, a.recorded := by
  intro a ha
  obtain ⟨t, ht, ha⟩ := mem_attempts.1 ha
  exact (performed s around st t).recorded (hcalm t ht) ha

/-! ## Histories -/

namespace Recorded

variable {os : List Occasion} {es : List Episode}

/-- In a history without a crash, what is handed over or held at the end is what was so at the
beginning and what builds kept on the way. -/
theorem events (h : s.Recorded st os es st') (hsound : st.Sound) (hcalm : ∀ e ∈ es, e.calm) :
    ((st'.books.batches.flatMap (·.events) : List Event) : Multiset Event) + st'.backlog.events =
      ((st.books.batches.flatMap (·.events) : List Event) + st.backlog.events) +
        (es.flatMap (Episode.kept s) : List Event) := by
  induction h with
  | nil st => simp
  | @cons st st' o _ es _ ih =>
    obtain ⟨hfirst, hlater⟩ := List.forall_mem_cons.1 hcalm
    have hwait : (st.wait o.wait).Sound := wait_sound hsound o.wait
    have hwindow := reports_events hwait ((episode_calm s o.around _).1 hfirst)
    rw [ih (runWindow_sound hwait) hlater, runWindow_batches, List.flatMap_append,
      ← Multiset.coe_add, List.flatMap_map, List.flatMap_cons, ← Multiset.coe_add, episode_kept]
    calc _ = ((st.books.batches.flatMap (·.events) : List Event) : Multiset Event) +
          (((s.attempts o.around (st.wait o.wait)).flatMap (·.batch.events) : List Event) +
            (s.runWindow o.around (st.wait o.wait)).state.backlog.events) +
          (es.flatMap (Episode.kept s) : List Event) := by
            rw [← add_assoc]
            rfl
      _ = _ := by
        rw [hwindow]
        show _ = ((st.books.batches.flatMap (·.events) : List Event) : Multiset Event) +
          st.backlog.events + _
        simp only [add_assoc]
        rfl

/-- In a history without a crash the counts grow by what builds keep and by what is handed over. -/
theorem counts (h : s.Recorded st os es st') (hcalm : ∀ e ∈ es, e.calm) :
    st'.books.counts.generated =
        st.books.counts.generated + (es.flatMap (Episode.kept s)).length ∧
      st'.books.counts.sent + (st.books.batches.flatMap (·.events)).length =
        st.books.counts.sent + (st'.books.batches.flatMap (·.events)).length := by
  induction h with
  | nil st => exact ⟨rfl, rfl⟩
  | @cons st st' o _ es _ ih =>
    obtain ⟨hfirst, hlater⟩ := List.forall_mem_cons.1 hcalm
    have hfirst := (episode_calm s o.around _).1 hfirst
    obtain ⟨hgenerated, hsent⟩ := ih hlater
    rw [runWindow_generated, reports_generated hfirst] at hgenerated
    rw [runWindow_sent _ _ _ (recorded_of_calm hfirst), runWindow_batches, List.flatMap_append,
      List.length_append, List.flatMap_map] at hsent
    rw [List.flatMap_cons, List.length_append, episode_kept]
    simp only [StreamState.wait] at hgenerated hsent ⊢
    omega

/-- In a history whose collaborators never crash no task does, as long as its events can be
counted. -/
theorem calm (h : s.Recorded st os es st') (hsound : st.Sound) (hquiet : ∀ o ∈ os, o.around.Quiet)
    (hroom :
      st.backlog.events.length + (es.flatMap (Episode.kept s)).length < 0x10000000000000000) :
    ∀ e ∈ es, e.calm := by
  induction h with
  | nil st => exact fun _ he => absurd he List.not_mem_nil
  | @cons st st' o _ es _ ih =>
    obtain ⟨hfirst, hlater⟩ := List.forall_mem_cons.1 hquiet
    have hwait : (st.wait o.wait).Sound := wait_sound hsound o.wait
    have hbacklog : (st.wait o.wait).backlog = st.backlog := rfl
    rw [List.flatMap_cons, List.length_append, episode_kept, ← hbacklog] at hroom
    have hcalm : ∀ t ∈ s.tasks o.around (st.wait o.wait),
        (s.reportOf o.around (st.wait o.wait) t).crashed = false := fun t ht =>
      reportOf_calm hwait hfirst (by omega) ht
    -- what waits after the window is part of what waited and what is new
    have hevents := congrArg Multiset.card (reports_events hwait hcalm)
    simp only [Multiset.card_add, Multiset.coe_card] at hevents
    exact List.forall_mem_cons.2 ⟨(episode_calm s o.around _).2 hcalm,
      ih (runWindow_sound hwait) hlater (by omega)⟩

/-- **The new events of a history** are no more than its users can emit in so many windows. -/
theorem kept_length_le {n : Nat} (h : s.Recorded st os es st') (hsound : st.Sound)
    (hp : st'.population.Distinct)
    (hn : ∀ o ∈ os, ∀ w user source,
      (generateUser s.planner o.around.generator w user source).events.length ≤ n) :
    (es.flatMap (Episode.kept s)).length ≤ os.length * (n * st'.population.size) := by
  induction h with
  | nil st => exact Nat.zero_le _
  | @cons st st' o os es hrest ih =>
    obtain ⟨hfirst, hlater⟩ := List.forall_mem_cons.1 hn
    have hwait : (st.wait o.wait).Sound := wait_sound hsound o.wait
    have hsize := (hrest.places (runWindow_sound hwait)).length_le
    rw [← Population.size_eq, ← Population.size_eq, size_runWindow hwait] at hsize
    have hwindow := newlyKept_length_le hwait (hrest.distinct_opened hsound hp) (hfirst _)
    have hmul := Nat.mul_le_mul_left n hsize
    have htail := ih (runWindow_sound hwait) hp hlater
    rw [List.flatMap_cons, List.length_append, episode_kept, List.length_cons, Nat.succ_mul]
    omega

end Recorded

/-- **Conservation**: from the start of a stream, in a history without a crash, the events handed
over and those that wait in the backlog are together the events that builds kept. The counts agree:
generated events are sent or pending. -/
theorem record_conserves (s : Streamer) (population : Population) (entropy : Nat)
    {os : List Occasion} {es : List Episode} {st : StreamState}
    (h : s.record os (s.start population entropy) = .ok (es, st)) (hcalm : ∀ e ∈ es, e.calm) :
    ((st.books.batches.flatMap (·.events) : List Event) : Multiset Event) + st.backlog.events =
        (es.flatMap (Episode.kept s) : List Event) ∧
      st.books.counts.generated = st.books.counts.sent + st.backlog.count := by
  have hrecorded := recorded_of_record h
  have hevents := hrecorded.events (start_sound s population entropy) hcalm
  obtain ⟨hgenerated, hsent⟩ := hrecorded.counts hcalm
  have hkept : ((st.books.batches.flatMap (·.events) : List Event) : Multiset Event) +
      st.backlog.events = (es.flatMap (Episode.kept s) : List Event) := by
    rw [hevents]
    exact Multiset.zero_add _
  refine ⟨hkept, ?_⟩
  have hcard := congrArg Multiset.card hkept
  have hcount : st.backlog.count = st.backlog.events.length :=
    (length_flatMap_eq_totalOf _ _).symm
  simp only [Multiset.card_add, Multiset.coe_card] at hcard
  have hsentAll : st.books.counts.sent = (st.books.batches.flatMap (·.events)).length :=
    hsent.trans (Nat.zero_add _)
  have hgeneratedAll : st.books.counts.generated = (es.flatMap (Episode.kept s)).length :=
    hgenerated.trans (Nat.zero_add _)
  omega

/-- Two windows of a small stream in which no task crashes. -/
theorem daily_calm {es : List Episode} {st : StreamState}
    (h : daily.record Occasion.twoDays (daily.start .single 0) = .ok (es, st))
    (hsize : st.population.size ≤ 1) : ∀ e ∈ es, e.calm := by
  have hrecorded := recorded_of_record h
  have hsound := start_sound daily .single 0
  have hkept := hrecorded.kept_length_le (n := 2) hsound
    (Population.distinct_of_size_le_one hsize) (by simp [Occasion.twoDays, daily_emits])
  have hmul := Nat.mul_le_mul_left 2 hsize
  refine hrecorded.calm hsound (by simp [Occasion.twoDays, Surroundings.twoEvents_quiet]) ?_
  simp only [Occasion.twoDays, List.length_cons, List.length_nil] at hkept
  show 0 + (es.flatMap (Episode.kept daily)).length < _
  omega

theorem record_conserves_daily : ∃ es st,
    daily.record Occasion.twoDays (daily.start .single 0) = .ok (es, st) ∧ (∀ e ∈ es, e.calm) ∧
      ((st.books.batches.flatMap (·.events) : List Event) : Multiset Event) + st.backlog.events =
        (es.flatMap (Episode.kept daily) : List Event) ∧
      st.books.counts.generated = st.books.counts.sent + st.backlog.count := by
  obtain ⟨es, st, h, hsize⟩ := daily_record
  have hcalm := daily_calm h hsize
  exact ⟨es, st, h, hcalm, record_conserves daily .single 0 h hcalm⟩

end Streamer

end ShopTraffic
