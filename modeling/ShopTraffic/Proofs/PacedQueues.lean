import Mathlib
import ShopTraffic.Proofs.DeliveryOrder

/-!
# The queues that are paced

A build only puts new events behind what a user carries in, and nothing sorts a queue again. That it
is in order all the same rests on what waits between windows: it is in order and older than the next
window. A queue in order stays so from tick to tick, and has one place at which it can be cut at a
reading.

* `CutAt`, `cutAt_iff` — where a queue can be cut; `Queue.Contained` — a queue as a window hands it
  to a pacer;
* `Run.beginnings`, `ticks_toDeadline` — the states in which the ticks of a run begin;
  `queues_of_beginning` — their queues are the last parts of those the run began with;
* `Task.queues?`, `run?_perform` — the queues that a task paces; `queues_contained` — they are
  contained;
* `record_pacesInOrder` — every queue of every history.
-/

set_option autoImplicit false

namespace ShopTraffic

/-! ## Cuts -/

/-- The first `n` events are due at a reading and the others are not. -/
structure CutAt (now : Instant) (events : List Event) (n : Nat) : Prop where
  within : n ≤ events.length
  due : ∀ e ∈ events.take n, e.time < now
  pending : ∀ e ∈ events.drop n, now ≤ e.time

/-- There is no other cut than behind the events at the front that are due. -/
theorem CutAt.eq_length {now : Instant} {events : List Event} {n : Nat} (h : CutAt now events n) :
    n = (events.takeWhile (·.time < now)).length := by
  -- All of the first part is due, and the first event behind it is not.
  have hnone : (events.drop n).takeWhile (·.time < now) = [] := by
    cases hdrop : events.drop n with
    | nil => rfl
    | cons x rest =>
      have hx : now ≤ x.time := h.pending x (hdrop ▸ List.mem_cons_self)
      rw [Instant.le_def] at hx
      refine List.takeWhile_cons_of_neg ?_
      simp only [decide_eq_true_eq, Instant.lt_def]
      omega
  have hall : ∀ e ∈ events.take n, decide (e.time < now) = true := fun e he =>
    decide_eq_true (h.due e he)
  conv_rhs => rw [← List.take_append_drop n events]
  rw [List.takeWhile_append_of_pos hall, hnone, List.append_nil, List.length_take]
  exact (Nat.min_eq_left h.within).symm

/-- Events in order can be cut at every reading. -/
theorem TimeOrdered.cutAt {events : List Event} (h : TimeOrdered events) (now : Instant) :
    CutAt now events (events.takeWhile (·.time < now)).length := by
  have hsplit := List.takeWhile_append_dropWhile (p := fun e : Event => decide (e.time < now))
    (l := events)
  generalize hdue : events.takeWhile (·.time < now) = due at hsplit
  generalize hrest : events.dropWhile (·.time < now) = rest at hsplit
  constructor
  · rw [← hsplit, List.length_append]
    omega
  · intro e he
    rw [← hsplit, List.take_left, ← hdue] at he
    simpa using List.mem_takeWhile_imp he
  · intro e he
    rw [← hsplit, List.drop_left, ← hrest] at he
    exact Queue.not_lt_of_mem_dropWhile h he

theorem cutAt_iff {now : Instant} {events : List Event} (h : TimeOrdered events) {n : Nat} :
    CutAt now events n ↔ n = (events.takeWhile (·.time < now)).length := by
  constructor
  · exact CutAt.eq_length
  · rintro rfl
    exact h.cutAt now

/-! ## The ticks of a run -/

/-- What pacing leaves of a queue: its user, and the last of its events. -/
structure Queue.Leaves (q q' : Queue) : Prop where
  id : q'.user.id = q.user.id
  rest : q'.events <:+ q.events

namespace Queue.Leaves

variable {q q' q'' : Queue}

theorem refl (q : Queue) : q.Leaves q := ⟨rfl, List.suffix_rfl⟩

theorem trans (h : q.Leaves q') (h' : q'.Leaves q'') : q.Leaves q'' :=
  ⟨h'.id.trans h.id, h'.rest.trans h.rest⟩

theorem of_hands {a : Attempt} (h : q.Hands a q') : q.Leaves q' := by
  constructor
  · rw [h.user_eq]
  · rw [h.left]
    exact List.dropWhile_suffix _

end Queue.Leaves

/-- A tick leaves nothing but what it found. -/
theorem Served.leaves {now : Instant} {qs qs' : List Queue} {as : List Attempt}
    (h : Served now qs as qs') : ∀ q' ∈ qs', ∃ q ∈ qs, q.Leaves q' := by
  have hcons : ∀ {q q₁ : Queue} {rest rest' : List Queue}, q.Leaves q₁ →
      (∀ q' ∈ rest', ∃ q ∈ rest, q.Leaves q') → ∀ q' ∈ q₁ :: rest', ∃ p ∈ q :: rest, p.Leaves q' := by
    intro q q₁ rest rest' hq hrest q' hq'
    rcases List.mem_cons.1 hq' with rfl | hq'
    · exact ⟨q, List.mem_cons_self, hq⟩
    · obtain ⟨p, hp, hleaves⟩ := hrest q' hq'
      exact ⟨p, List.mem_cons_of_mem _ hp, hleaves⟩
  induction h with
  | done => exact fun _ hq' => absurd hq' List.not_mem_nil
  | pass _ _ ih => exact hcons (.refl _) ih
  | hand hands _ _ _ ih => exact hcons (.of_hands hands) ih
  | broke hands _ _ => exact hcons (.of_hands hands) fun q hq => ⟨q, hq, .refl q⟩

/-- The states in which the ticks of a run begin. -/
def Run.beginnings (sink : Sink) (clock : Clock) (interval : Interval) (deadline : Instant)
    (r : Run) : List Run :=
  if r.elapsed < clock.horizon deadline ∧ clock.read r.elapsed ≤ deadline then
    let next := r.step sink clock interval
    if _h : next.broken = none then r :: beginnings sink clock interval deadline next else [r]
  else []
termination_by clock.horizon deadline - r.elapsed
decreasing_by
  have := Run.lt_elapsed_step r sink clock interval _h
  omega

section Ticks

variable {sink : Sink} {clock : Clock} {interval : Interval} {deadline : Instant}

/-- The ticks of a run are those that begin in these states. -/
theorem Run.ticks_toDeadline (r : Run) :
    (toDeadline sink clock interval deadline r).ticks.toList =
      r.ticks.toList ++ (beginnings sink clock interval deadline r).map (·.elapsed) := by
  fun_induction toDeadline sink clock interval deadline r with
  | case1 r hgoes next hnext ih =>
    rw [beginnings, if_pos hgoes, ih]
    simp only
    rw [dif_pos hnext, List.map_cons]
    simp [next, step]
  | case2 r hgoes next hnext =>
    rw [beginnings, if_pos hgoes]
    simp only
    rw [dif_neg hnext]
    simp [next, step]
  | case3 r hover =>
    rw [beginnings, if_neg hover, List.map_nil, List.append_nil]

/-- When a tick begins, the queues are what is left of those with which the run began. -/
theorem Run.queues_of_beginning (r : Run) :
    ∀ begun ∈ beginnings sink clock interval deadline r,
      ∀ q' ∈ begun.queues, ∃ q ∈ r.queues, q.Leaves q' := by
  fun_induction beginnings sink clock interval deadline r with
  | case1 r hgoes next hnext ih =>
    have hserved := serve_served sink clock (clock.read r.elapsed) r.queues r.elapsed
    intro begun hbegun q' hq'
    rcases List.mem_cons.1 hbegun with rfl | hbegun
    · exact ⟨q', hq', .refl q'⟩
    · obtain ⟨q₁, hq₁, hlater⟩ := ih begun hbegun q' hq'
      obtain ⟨q, hq, hnow⟩ := hserved.leaves q₁ hq₁
      exact ⟨q, hq, hnow.trans hlater⟩
  | case2 r hgoes next hnext =>
    intro begun hbegun q' hq'
    rw [List.mem_singleton.1 hbegun] at hq'
    exact ⟨q', hq', .refl q'⟩
  | case3 r hover => exact fun _ hbegun => absurd hbegun List.not_mem_nil

end Ticks

/-! ## The queues of a window -/

/-- The queues that a task hands to a pacer, if its build succeeds. -/
def Task.queues? (t : Task) (p : Planner) (generator : Generator) (w : Window) :
    Option (List Queue) :=
  match (t.prepare p generator w).1 with
  | .built queues _ => some queues
  | _ => none

/-- A task that comes to pacing paces its queues. -/
theorem Task.run?_perform (t : Task) (p : Planner) (pace : Pace) (around : Surroundings)
    (w : Window) (start : Nat) :
    (t.perform p pace around w start).run? = (t.queues? p around.generator w).map fun queues =>
      ShopTraffic.pace around.sink (around.taskClock t.shard) pace.interval pace.grace w.finish
        queues start := by
  unfold perform queues?
  generalize t.prepare p around.generator w = prepared
  obtain ⟨result, users⟩ := prepared
  cases result <;> rfl

/-- A queue as a window hands it to a pacer: in order, what waited for the user first, all of it
older than the window, then events that the build keeps, all of them in the window. -/
structure Queue.Contained (q : Queue) (w : Window) (waited kept : List Event) : Prop where
  ordered : TimeOrdered q.events
  earlier : ∀ x ∈ waited, x.time < w.start
  split : ∃ own, q.events = waited ++ own ∧ own.Sublist kept ∧ ∀ x ∈ own, w.contains x.time

/-- A task that carries in events in order, all older than the window, paces queues in order. -/
theorem Task.Prepared.contained {t : Task} {w : Window} {kept : List Event} {queues : List Queue}
    {tally : Tally} {users : List User} (h : t.Prepared w kept (.built queues tally, users))
    (hordered : ∀ i ∈ t.intakes, TimeOrdered i.carried)
    (hearlier : ∀ i ∈ t.intakes, ∀ x ∈ i.carried, x.time < w.start) {q : Queue} (hq : q ∈ queues) :
    ∃ i ∈ t.intakes, q.user.id = i.user.id ∧ q.Contained w i.carried kept := by
  cases h with
  | @built drafts _ _ hdrafts hkept _ _ =>
    obtain ⟨d, hd, hq⟩ := List.mem_filterMap.1 hq
    obtain ⟨i, hi, hof⟩ := exists_right_of_forall₂ hdrafts hd
    obtain ⟨-, rfl⟩ := Draft.queue?_eq_some_iff.1 hq
    have hinside : ∀ x ∈ d.kept w, w.contains x.time := fun x hx => (Draft.mem_kept.1 hx).2
    have hqueued : d.queued w = i.carried ++ d.kept w := by
      rw [Draft.queued, hof.carried]
    refine ⟨i, hi, Draft.id_settledUser.trans hof.user.id_eq, ?_⟩
    constructor
    · show TimeOrdered (d.queued w)
      rw [hqueued]
      exact timeOrdered_append (hordered i hi) (hearlier i hi) Draft.timeOrdered_kept hinside
    · exact hearlier i hi
    · refine ⟨d.kept w, hqueued, ?_, hinside⟩
      rw [← hkept]
      exact sublist_flatMap_of_mem (·.kept w) hd

/-- How an episode paces its queues and what it leaves waiting. -/
structure Episode.PacesInOrder (e : Episode) (s : Streamer) : Prop where
  /-- Every run paces queues that are contained, and at each of its ticks they have one cut. -/
  paced : ∀ r ∈ e.run.reports, ∀ run, r.run? = some run → ∃ queues,
    r.task.queues? s.planner e.around.generator e.run.window = some queues ∧
    run = pace e.around.sink (e.around.taskClock r.task.shard) s.pace.interval s.pace.grace
      e.run.window.finish queues e.before.elapsed ∧
    (∀ q ∈ queues, q.Contained e.run.window (e.before.backlog.eventsOf q.user.id)
      (r.task.kept s.planner e.around.generator e.run.window)) ∧
    ∀ begun ∈ Run.beginnings e.around.sink (e.around.taskClock r.task.shard) s.pace.interval
        (e.run.window.finish.plus s.pace.grace) { queues, elapsed := e.before.elapsed },
      ∀ q ∈ begun.queues, TimeOrdered q.events ∧
        ∀ n, CutAt ((e.around.taskClock r.task.shard).read begun.elapsed) q.events n ↔
          n = (q.events.takeWhile
            (·.time < (e.around.taskClock r.task.shard).read begun.elapsed)).length
  /-- Nobody waits without events, and the events of everyone are in order and before the end of the
  window. -/
  left : ∀ c ∈ e.run.state.backlog.entries, c.events ≠ [] ∧ TimeOrdered c.events ∧
    ∀ x ∈ c.events, x.time < e.run.window.finish

namespace Streamer

variable {s : Streamer} {around : Surroundings} {st : StreamState}

/-- **Every queue that a task hands to a pacer is contained.** -/
theorem queues_contained (h : st.Sound) (hp : (s.opened around st).population.Distinct)
    (hst : st.Delivering) {t : Task} (ht : t ∈ s.tasks around st) {queues : List Queue}
    (hqueues : t.queues? s.planner around.generator (s.opening around st) = some queues) {q : Queue}
    (hq : q ∈ queues) :
    q.Contained (s.opening around st) (st.backlog.eventsOf q.user.id)
      (t.kept s.planner around.generator (s.opening around st)) := by
  have hcarried : ∀ i ∈ t.intakes, i.carried = st.backlog.eventsOf i.user.id := fun i hi =>
    carried_of_task h hp ht hi
  have hordered : ∀ i ∈ t.intakes, TimeOrdered i.carried := fun i hi => by
    rw [hcarried i hi]
    exact Backlog.timeOrdered_eventsOf hst.ordered _
  have hearlier : ∀ i ∈ t.intakes, ∀ x ∈ i.carried, x.time < (s.opening around st).start := by
    intro i hi x hx
    rw [hcarried i hi] at hx
    exact hst.earlier (.inr (Backlog.mem_events_of_mem_eventsOf hx))
  have hprepared := t.prepare_prepared s.planner around.generator (s.opening around st)
  unfold Task.queues? at hqueues
  generalize t.prepare s.planner around.generator (s.opening around st) = prepared at hprepared hqueues
  obtain ⟨result, users⟩ := prepared
  cases result with
  | built built tally =>
    cases hqueues
    obtain ⟨i, hi, hid, hcontained⟩ := hprepared.contained hordered hearlier hq
    rw [hid, ← hcarried i hi]
    exact hcontained
  | failed cause returned => cases hqueues
  | crashed crash => cases hqueues

/-- **A window paces queues in order**, and leaves events in order. -/
theorem runWindow_pacesInOrder (h : st.Sound) (hp : (s.opened around st).population.Distinct)
    (hst : st.Delivering) : Episode.PacesInOrder ⟨around, st, s.runWindow around st⟩ s := by
  have hafter := runWindow_delivering h hp hst
  constructor
  · intro r hr run hrun
    rw [runWindow_reports] at hr
    obtain ⟨t, ht, rfl⟩ := List.mem_map.1 hr
    rw [reportOf, Task.run?_perform, opened_elapsed] at hrun
    obtain ⟨queues, hqueues, rfl⟩ := Option.map_eq_some_iff.1 hrun
    simp only [runWindow_window, (performed s around st t).task_eq]
    have hcontained : ∀ q ∈ queues, q.Contained (s.opening around st)
        (st.backlog.eventsOf q.user.id)
        (t.kept s.planner around.generator (s.opening around st)) := fun q hq =>
      queues_contained h hp hst ht hqueues hq
    refine ⟨queues, hqueues, rfl, hcontained, ?_⟩
    intro begun hbegun q' hq'
    obtain ⟨q, hq, hleaves⟩ := Run.queues_of_beginning _ begun hbegun q' hq'
    have hordered : TimeOrdered q'.events := (hcontained q hq).ordered.sublist hleaves.rest.sublist
    exact ⟨hordered, fun _ => cutAt_iff hordered⟩
  · intro c hc
    refine ⟨(wellFormed_runWindow s around st).nonempty c hc, hafter.ordered c hc, ?_⟩
    intro x hx
    obtain ⟨last, hlast, hlt⟩ := hafter.past x (.inr (List.mem_flatMap.2 ⟨c, hc, hx⟩))
    rw [runWindow_last, Option.some.injEq] at hlast
    simp only [runWindow_window]
    exact hlast ▸ hlt

/-- **Every queue that is paced is in order**: in every history of users with different identities,
whatever is generated and however the clocks run, each queue that a task hands to a pacer holds what
waited for its user, all of it older than the window, and then new events of the window, all in
order of time; at every tick it has its cut at the reading of the clock. What waits after a window
is in order, and all of it lies before the end of the window. -/
theorem record_pacesInOrder (s : Streamer) (population : Population) (entropy : Nat)
    {os : List Occasion} {es : List Episode} {st : StreamState}
    (h : s.record os (s.start population entropy) = .ok (es, st)) (hp : st.population.Distinct) :
    ∀ e ∈ es, e.PacesInOrder s :=
  (Recorded.preserves (P := StreamState.Delivering) (A := fun _ => True)
    (fun _ n hst => wait_delivering hst n)
    (fun _ _ hnow hopened hst _ =>
      ⟨runWindow_delivering hnow hopened hst, runWindow_pacesInOrder hnow hopened hst⟩)
    (recorded_of_record h) (start_sound s population entropy) hp
    (start_delivering s population entropy) fun _ _ => trivial).2

theorem record_pacesInOrder_daily : ∃ es st,
    daily.record Occasion.twoDays (daily.start .single 0) = .ok (es, st) ∧ es.length = 2 ∧
      st.population.Distinct ∧ ∀ e ∈ es, e.PacesInOrder daily := by
  obtain ⟨es, st, h, hsize⟩ := daily_record
  have hp := Population.distinct_of_size_le_one hsize
  exact ⟨es, st, h, (recorded_of_record h).length_eq, hp, record_pacesInOrder daily .single 0 h hp⟩

end Streamer

end ShopTraffic
