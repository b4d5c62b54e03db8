import Mathlib
import ShopTraffic.Proofs.Histories

/-!
# The order of deliveries

Batches of one user are in order over a whole history, whatever its sinks answer, however its clocks
run and whichever of its tasks fail or crash. Within a window the queue of the user is in order;
between windows what waits is older than the next window, which begins where the last one ended or
later.

* `StreamState.Delivering` — the log and the backlog between windows: for every user the batches are
  in order, before what waits, and all of it lies before the end of the last window;
* `runWindow_delivering` — a window keeps it; `Recorded.delivers` — where a batch comes from;
* `record_inOrder` — the log of every history of users with different identities.
-/

set_option autoImplicit false

namespace ShopTraffic

/-- New events in order behind older ones in order are in order. -/
theorem timeOrdered_append {w : Window} {waited own : List Event} (hwaited : TimeOrdered waited)
    (hearlier : ∀ x ∈ waited, x.time < w.start) (hown : TimeOrdered own)
    (hinside : ∀ x ∈ own, w.contains x.time) : TimeOrdered (waited ++ own) := by
  refine List.pairwise_append.2 ⟨hwaited, hown, fun x hx y hy => ?_⟩
  have hle := ((w.contains_iff y.time).1 (hinside y hy)).1
  exact Instant.le_of_lt (Instant.lt_of_lt_of_le (hearlier x hx) hle)

/-- What a task hands over for a user and what it leaves is in order, if the user carried in events
in order that are older than the window; and all of it was carried in or lies in the window. -/
theorem TaskReport.Serves.inOrder {r : TaskReport} {w : Window} {kept : List Event} {i : Intake}
    {as : List Attempt} {left : List Event} {v : User} (h : r.Serves w kept i as left v)
    (hcarried : TimeOrdered i.carried) (hearlier : ∀ x ∈ i.carried, x.time < w.start) :
    InOrder (as.map (·.batch)) left ∧
      ∀ x, (∃ a ∈ as, x ∈ a.batch.events) ∨ x ∈ left → x ∈ i.carried ∨ w.contains x.time := by
  cases h with
  | idle hnone _ _ =>
    refine ⟨.nothing .nil, fun x hx => ?_⟩
    simp at hx
  | @paced run u own as q _ _ hown hinside _ _ hdrained =>
    have hqueue : TimeOrdered (i.carried ++ own) :=
      timeOrdered_append hcarried hearlier hown hinside
    have horder := hdrained.ordered hqueue
    have hevents := hdrained.events
    have hsource : ∀ x, (∃ a ∈ as, x ∈ a.batch.events) ∨ x ∈ q.events →
        x ∈ i.carried ∨ w.contains x.time := by
      intro x hx
      have hmem : x ∈ as.flatMap (·.batch.events) ++ q.events :=
        List.mem_append.2 (hx.imp List.mem_flatMap.2 id)
      rw [hevents] at hmem
      exact (List.mem_append.1 hmem).imp id (hinside x)
    split
    · refine ⟨⟨horder.proper, horder.strict, .nil, fun _ _ _ _ _ hy => absurd hy List.not_mem_nil⟩,
        fun x hx => hsource x (hx.imp id fun hx => absurd hx List.not_mem_nil)⟩
    · exact ⟨horder, hsource⟩
  | failed _ _ _ =>
    refine ⟨.nothing hcarried, fun x hx => ?_⟩
    exact .inl (hx.resolve_left fun ⟨_, ha, _⟩ => absurd ha List.not_mem_nil)
  | crashed _ _ _ =>
    refine ⟨.nothing .nil, fun x hx => ?_⟩
    simp at hx

/-- A task of an episode handed a batch over, cut at the reading with which one of its ticks began. -/
def Episode.Delivers (e : Episode) (b : Batch) : Prop :=
  ∃ r ∈ e.run.reports, ∃ run, r.run? = some run ∧ b ∈ run.batches.toList ∧
    ∃ tick ∈ run.ticks.toList, tick ≤ b.elapsed ∧
      b.cut = (e.around.taskClock r.task.shard).read tick

/-- The batches handed over so far and the events that wait between two windows. -/
structure StreamState.Delivering (st : StreamState) : Prop where
  owned : ∀ b ∈ st.books.batches, ∃ u, b.owner = some u ∧ u.place ∈ st.population.places
  ordered : ∀ c ∈ st.backlog.entries, TimeOrdered c.events
  inOrder : ∀ id, InOrder (st.books.batches.filter (·.isFor id)) (st.backlog.eventsOf id)
  past : ∀ x, (∃ b ∈ st.books.batches, x ∈ b.events) ∨ x ∈ st.backlog.events →
    ∃ last, st.last = some last ∧ x.time < last.finish

namespace Backlog

theorem mem_events_of_mem_eventsOf {b : Backlog} {id : UserId} {e : Event}
    (h : e ∈ b.eventsOf id) : e ∈ b.events := by
  unfold eventsOf get? at h
  cases hfind : b.entries.find? (·.user.id = id) with
  | none =>
    rw [hfind] at h
    cases h
  | some c =>
    rw [hfind] at h
    exact List.mem_flatMap.2 ⟨c, List.mem_of_find?_eq_some hfind, h⟩

theorem timeOrdered_eventsOf {b : Backlog} (h : ∀ c ∈ b.entries, TimeOrdered c.events)
    (id : UserId) : TimeOrdered (b.eventsOf id) := by
  unfold eventsOf get?
  cases hfind : b.entries.find? (·.user.id = id) with
  | none => exact .nil
  | some c => exact h c (List.mem_of_find?_eq_some hfind)

end Backlog

variable {s : Streamer} {around : Surroundings} {st : StreamState}

/-- What waits or is handed over when a window opens is older than the window. -/
theorem StreamState.Delivering.earlier (h : st.Delivering) {x : Event}
    (hx : (∃ b ∈ st.books.batches, x ∈ b.events) ∨ x ∈ st.backlog.events) :
    x.time < (s.opening around st).start := by
  obtain ⟨last, hlast, hlt⟩ := h.past x hx
  exact Instant.lt_of_lt_of_le hlt (Streamer.opening_after s around hlast)

namespace Streamer

/-- After a window every entry of the backlog is in order of time. -/
theorem runWindow_ordered (h : st.Sound) (hp : (s.opened around st).population.Distinct)
    (hst : st.Delivering) :
    ∀ c ∈ (s.runWindow around st).state.backlog.entries, TimeOrdered c.events := by
  refine runWindow_backlog_forall (fun t ht c hc => ?_) fun _ _ _ _ => timeOrdered_byTime _
  obtain ⟨i, hi, -, hcarried, hserves⟩ := serves_of_returned h hp ht hc
  refine (hserves.inOrder ?_ fun x hx => ?_).1.ordered
  · rw [hcarried]
    exact Backlog.timeOrdered_eventsOf hst.ordered _
  · rw [hcarried] at hx
    exact hst.earlier (.inr (Backlog.mem_events_of_mem_eventsOf hx))

/-- For one user, a window hands over and leaves in order what waited and what is new. -/
theorem runWindow_user (h : st.Sound) (hp : (s.opened around st).population.Distinct)
    (hst : st.Delivering) (id : UserId) :
    InOrder ((attemptsFor id (s.attempts around st)).map (·.batch))
        ((s.runWindow around st).state.backlog.eventsOf id) ∧
      ∀ x, (∃ a ∈ attemptsFor id (s.attempts around st), x ∈ a.batch.events) ∨
          x ∈ (s.runWindow around st).state.backlog.eventsOf id →
        x ∈ st.backlog.eventsOf id ∨ (s.opening around st).contains x.time := by
  by_cases hid : id ∈ (s.allIntakes (s.opened around st)).map (·.user.id)
  · obtain ⟨i, hi, rfl⟩ := List.mem_map.1 hid
    rw [← task_intakes] at hi
    obtain ⟨t, ht, hi⟩ := List.mem_flatMap.1 hi
    obtain ⟨hcarried, left, v, hserves, hleft, -⟩ := serves_of_task h hp ht hi
    obtain ⟨horder, hsource⟩ := hserves.inOrder
      (hcarried ▸ Backlog.timeOrdered_eventsOf hst.ordered _) fun x hx =>
        hst.earlier (.inr (Backlog.mem_events_of_mem_eventsOf (hcarried ▸ hx)))
    refine ⟨horder.of_perm hleft ?_, fun x hx => ?_⟩
    · exact Backlog.timeOrdered_eventsOf (runWindow_ordered h hp hst) _
    · rw [← hcarried]
      exact hsource x (hx.imp_right fun hx => hleft.mem_iff.1 hx)
  · obtain ⟨hattempts, -, hafter⟩ := untouched hid
    rw [hattempts, hafter]
    refine ⟨.nothing .nil, fun x hx => ?_⟩
    simp at hx

/-- **A window keeps the order of deliveries.** -/
theorem runWindow_delivering (h : st.Sound) (hp : (s.opened around st).population.Distinct)
    (hst : st.Delivering) : (s.runWindow around st).state.Delivering := by
  have huser := runWindow_user h hp hst
  have hbatches := runWindow_batches s around st
  have hafter : ∀ id x, (∃ a ∈ attemptsFor id (s.attempts around st), x ∈ a.batch.events) ∨
      x ∈ (s.runWindow around st).state.backlog.eventsOf id → ∀ b ∈ st.books.batches,
      b.isFor id → ∀ y ∈ b.events, y.time < x.time := by
    intro id x hx b hb hfor y hy
    rcases (huser id).2 x hx with hwaited | hnew
    · exact (hst.inOrder id).before b (List.mem_filter.2 ⟨hb, hfor⟩) y hy x hwaited
    · have hlt : y.time < (s.opening around st).start := hst.earlier (.inl ⟨b, hb, hy⟩)
      exact Instant.lt_of_lt_of_le hlt ((Window.contains_iff _ _).1 hnew).1
  have hfinish : ∀ x : Event, x.time < (s.opening around st).start ∨
      (s.opening around st).contains x.time → x.time < (s.opening around st).finish := by
    intro x hx
    rcases hx with hlt | hnew
    · exact Instant.lt_of_lt_of_le hlt (opening_start_le_finish s around st)
    · exact ((Window.contains_iff _ _).1 hnew).2
  have hpast : ∀ id x, (∃ a ∈ attemptsFor id (s.attempts around st), x ∈ a.batch.events) ∨
      x ∈ (s.runWindow around st).state.backlog.eventsOf id →
      x.time < (s.opening around st).finish := fun id x hx =>
    hfinish x (((huser id).2 x hx).imp_left fun hwaited =>
      hst.earlier (.inr (Backlog.mem_events_of_mem_eventsOf hwaited)))
  refine ⟨fun b hb => ?_, runWindow_ordered h hp hst, fun id => ?_, fun x hx => ?_⟩
  · rw [hbatches, List.mem_append, List.mem_map] at hb
    rw [runWindow_places h]
    rcases hb with hb | ⟨a, ha, rfl⟩
    · obtain ⟨u, howner, hplace⟩ := hst.owned b hb
      exact ⟨u, howner, (opened_population s around st).subset hplace⟩
    · exact attempts_owned h ha
  · rw [hbatches, List.filter_append, List.filter_map]
    refine (hst.inOrder id).append (huser id).1 (fun b hb y hy c hc x hx => ?_)
      fun b hb y hy x hx => ?_
    · obtain ⟨hb, hfor⟩ := List.mem_filter.1 hb
      obtain ⟨a, ha, rfl⟩ := List.mem_map.1 hc
      exact hafter id x (.inl ⟨a, ha, hx⟩) b hb hfor y hy
    · obtain ⟨hb, hfor⟩ := List.mem_filter.1 hb
      exact hafter id x (.inr hx) b hb hfor y hy
  · refine ⟨_, runWindow_last s around st, ?_⟩
    rcases hx with ⟨b, hb, hx⟩ | hx
    · rw [hbatches, List.mem_append, List.mem_map] at hb
      rcases hb with hb | ⟨a, ha, rfl⟩
      · exact hfinish x (.inl (hst.earlier (.inl ⟨b, hb, hx⟩)))
      · obtain ⟨u, howner, -⟩ := attempts_owned h ha
        have hfor : a ∈ attemptsFor u.id (s.attempts around st) :=
          List.mem_filter.2 ⟨ha, by simp [Batch.isFor, howner]⟩
        exact hpast u.id x (.inl ⟨a, hfor, hx⟩)
    · obtain ⟨c, hc, hx⟩ := List.mem_flatMap.1 hx
      refine hpast c.user.id x (.inr ?_)
      rwa [Backlog.eventsOf_entry (wellFormed_runWindow s around st).ordered hc]

/-! ## Histories -/

theorem wait_delivering (hst : st.Delivering) (n : Nat) : (st.wait n).Delivering :=
  ⟨hst.owned, hst.ordered, hst.inOrder, hst.past⟩

/-- Every batch of a history was handed over in one of its episodes. -/
theorem Recorded.delivers {st' : StreamState} {os : List Occasion} {es : List Episode}
    (h : s.Recorded st os es st') {b : Batch} (hb : b ∈ st'.books.batches) :
    b ∈ st.books.batches ∨ ∃ e ∈ es, e.Delivers b := by
  induction h with
  | nil st => exact .inl hb
  | @cons st st' o _ es _ ih =>
    rcases ih hb with hb | ⟨e, he, hdelivers⟩
    · rw [runWindow_batches, List.mem_append, List.mem_map] at hb
      rcases hb with hb | ⟨a, ha, rfl⟩
      · exact .inl hb
      · obtain ⟨t, ht, ha⟩ := mem_attempts.1 ha
        have hperformed := performed s o.around (st.wait o.wait) t
        obtain ⟨run, hrun, hb, hcut⟩ := hperformed.cut ha
        refine .inr ⟨_, List.mem_cons_self, s.reportOf o.around (st.wait o.wait) t, ?_, run, hrun, hb,
          hperformed.task_eq.symm ▸ hcut⟩
        simp only [runWindow_reports]
        exact List.mem_map_of_mem ht
    · exact .inr ⟨e, List.mem_cons_of_mem _ he, hdelivers⟩

theorem start_delivering (s : Streamer) (population : Population) (entropy : Nat) :
    (s.start population entropy).Delivering := by
  refine ⟨fun _ hb => absurd hb List.not_mem_nil, fun _ hc => absurd hc List.not_mem_nil,
    fun _ => .nothing .nil, fun x hx => ?_⟩
  rcases hx with ⟨b, hb, -⟩ | hx
  · exact absurd hb List.not_mem_nil
  · exact absurd hx List.not_mem_nil

/-- **The order of deliveries**: in every history of users with different identities, every batch
belongs to a user; it is not empty and in order of time, and all of it lies before the reading with
which its tick began; and of two batches of one user, all of the earlier lies strictly before all of
the later. -/
theorem record_inOrder (s : Streamer) (population : Population) (entropy : Nat)
    {os : List Occasion} {es : List Episode} {st : StreamState}
    (h : s.record os (s.start population entropy) = .ok (es, st)) (hp : st.population.Distinct) :
    (∀ b ∈ st.books.batches, b.Proper ∧ (∃ e ∈ es, e.Delivers b) ∧
        ∃ u, b.owner = some u ∧ u.place ∈ st.population.places) ∧
      ∀ id, (st.books.batches.filter (·.isFor id)).Pairwise Batch.Before := by
  have hrecorded := recorded_of_record h
  obtain ⟨hst, -⟩ := Recorded.preserves (P := StreamState.Delivering) (A := fun _ => True)
    (Q := fun _ => True) (fun _ n hst => wait_delivering hst n)
    (fun _ _ hnow hopened hst _ => ⟨runWindow_delivering hnow hopened hst, trivial⟩) hrecorded
    (start_sound s population entropy) hp (start_delivering s population entropy) fun _ _ => trivial
  refine ⟨fun b hb => ?_, fun id => (hst.inOrder id).strict⟩
  obtain ⟨u, howner, hplace⟩ := hst.owned b hb
  refine ⟨(hst.inOrder u.id).proper b (List.mem_filter.2 ⟨hb, ?_⟩), ?_, u, howner, hplace⟩
  · simp [Batch.isFor, howner]
  · exact (hrecorded.delivers hb).resolve_left List.not_mem_nil

theorem record_inOrder_daily : ∃ es st,
    daily.record Occasion.twoDays (daily.start .single 0) = .ok (es, st) ∧
      st.population.Distinct ∧
      (∀ b ∈ st.books.batches, b.Proper ∧ (∃ e ∈ es, e.Delivers b) ∧
        ∃ u, b.owner = some u ∧ u.place ∈ st.population.places) ∧
      ∀ id, (st.books.batches.filter (·.isFor id)).Pairwise Batch.Before := by
  obtain ⟨es, st, h, hsize⟩ := daily_record
  have hp := Population.distinct_of_size_le_one hsize
  exact ⟨es, st, h, hp, record_inOrder daily .single 0 h hp⟩

end Streamer

end ShopTraffic
