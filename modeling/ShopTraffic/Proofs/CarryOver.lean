import Mathlib
import ShopTraffic.Proofs.Passages
import ShopTraffic.Proofs.DeliveryOrder

/-!
# What is carried over

On a clock that only moves while tasks rest, an event waits for one window at most: the first tick of
the next window hands over all that a user carries in, unless the user's task fails to build or
crashes. A window therefore leaves only events that are new in it and those that failed builds give
back.

* `Surroundings.OnTime` — such a clock; `StreamState.Due` — what waits lies before the reading of the
  clock;
* `first_tick_of_task`, `returned_of_task` — a window of such a clock, task by task;
* `runWindow_due`, `runWindow_carriesOver` — the whole window; `record_carriesOver` — a history;
* `Recorded.finish_le` — how late windows end where deliveries take no time.
-/

set_option autoImplicit false

namespace ShopTraffic

/-- All tasks read one clock, which keeps time from an origin on. -/
structure Surroundings.OnTime (around : Surroundings) (origin : Instant) : Prop where
  clock : around.clock = .startingAt origin
  taskClock : ∀ shard, around.taskClock shard = .startingAt origin

/-- All that waits lies before the reading of the clock. -/
def StreamState.Due (st : StreamState) (origin : Instant) : Prop :=
  ∀ x ∈ st.backlog.events, x.time < origin.plus st.elapsed

/-- The clock and the last window are not past `n`, and the window is not longer than `length`. -/
structure StreamState.Within (st : StreamState) (origin : Instant) (length n : Nat) : Prop where
  reading : origin.millis + st.elapsed ≤ n
  last : ∀ w, st.last = some w → w.finish.millis ≤ n ∧ w.length ≤ length

/-- A run that did not break off, of a task that came to pacing. -/
theorem TaskReport.succeeded_iff {r : TaskReport} :
    r.succeeded ↔ ∃ run, r.run? = some run ∧ run.broken = none := by
  unfold succeeded
  cases r.run? with
  | none => simp
  | some run => simp

/-- A task that runs to its deadline on a clock that keeps time ends when the clock is past it. -/
theorem Task.Performed.past_deadline {t : Task} {pace : Pace} {around : Surroundings} {w : Window}
    {start : Nat} {kept : List Event} {r : TaskReport} {origin : Instant}
    (h : t.Performed pace around w start kept r)
    (hclock : around.taskClock t.shard = .startingAt origin)
    (hlast : w.finish.millis + pace.grace < 0xFFFFFFFFFFFFFFFF) (hsucceeded : r.succeeded) :
    w.finish < origin.plus r.elapsed := by
  obtain ⟨run, hrun, hbroken⟩ := TaskReport.succeeded_iff.1 hsucceeded
  cases h with
  | paced _ _ _ _ hpace =>
    cases hrun
    rw [hclock] at hpace
    rw [hpace] at hbroken
    obtain ⟨-, hpast⟩ := pace_past_deadline hlast hbroken
    rw [← hpace] at hpast
    rw [Instant.lt_def]
    simp only
    omega
  | failed _ _ _ => cases hrun
  | crashed _ _ => cases hrun

/-- How an episode treats what was carried over. -/
structure Episode.CarriesOver (e : Episode) (s : Streamer) : Prop where
  /-- All that waits is handed to a task, which hands it over on its first tick or fails. -/
  first_tick : ∀ c ∈ e.before.backlog.entries, ∃ r ∈ e.run.reports, ∃ i ∈ r.task.intakes,
    i.user.id = c.user.id ∧ i.carried = c.events ∧
      (r.succeeded → ∃ run, r.run? = some run ∧ run.ticks.toList.head? = some e.before.elapsed ∧
        ∃ b ∈ run.batches.toList, b ∈ e.run.state.books.batches ∧ b.isFor c.user.id ∧
          b.cut = e.around.clock.read e.before.elapsed ∧ c.events <+: b.events)
  /-- All that waits afterwards is new in the window or was given back by a build that failed. -/
  left : ∀ c ∈ e.run.state.backlog.entries, ∃ r ∈ e.run.reports,
    (r.succeeded ∧ c.events.Subperm (r.task.kept s.planner e.around.generator e.run.window) ∧
        ∀ x ∈ c.events, e.run.window.contains x.time) ∨
      ∃ cause returned, r.finish = .buildFailed cause returned ∧
        ∃ d ∈ returned, d.user.id = c.user.id ∧ c.events.Perm d.events

namespace Streamer

variable {s : Streamer} {around : Surroundings} {st : StreamState} {origin : Instant}

/-- When a window of a clock on time begins, its deadline has not passed. -/
theorem begins_in_time (hon : around.OnTime origin)
    (hlast : (s.opening around st).finish.millis + s.pace.grace < 0xFFFFFFFFFFFFFFFF)
    (shard : ShardId) :
    st.elapsed < (around.taskClock shard).horizon ((s.opening around st).finish.plus s.pace.grace) ∧
      (around.taskClock shard).read st.elapsed ≤ (s.opening around st).finish.plus s.pace.grace := by
  have hpast := opening_not_past s around st
  rw [hon.clock] at hpast
  rw [hon.taskClock shard]
  simp only [Clock.startingAt, Instant.le_def, Instant.millis_plus] at hpast ⊢
  omega

/-- **The first tick of a task hands over all that a user carries in**, if the task runs to its
deadline. -/
theorem first_tick_of_task (h : st.Sound) (hp : (s.opened around st).population.Distinct)
    (hon : around.OnTime origin)
    (hlast : (s.opening around st).finish.millis + s.pace.grace < 0xFFFFFFFFFFFFFFFF)
    (hdue : st.Due origin) {t : Task} (ht : t ∈ s.tasks around st) {run : Run}
    (hrun : (s.reportOf around st t).run? = some run) (hbroken : run.broken = none) {i : Intake}
    (hi : i ∈ t.intakes) (hcarried : i.carried ≠ []) :
    run.ticks.toList.head? = some st.elapsed ∧
      ∃ a ∈ run.attempts, ∃ u, a.batch.owner = some u ∧ u.id = i.user.id ∧
        a.batch.cut = around.clock.read st.elapsed ∧ i.carried <+: a.batch.events := by
  obtain ⟨hstart, hread⟩ := begins_in_time hon hlast t.shard
  have hevents := carried_of_task h hp ht hi
  have hsame : around.taskClock t.shard = around.clock := by rw [hon.clock, hon.taskClock]
  rw [← hsame]
  refine (performed s around st t).first_tick hrun hbroken hstart hread hi hcarried fun x hx => ?_
  rw [hsame, hon.clock]
  exact hdue x (Backlog.mem_events_of_mem_eventsOf (hevents ▸ hx))

/-- What a task leaves of a user's queue is new, once it handed over all that was carried in. -/
theorem left_suffix {q q' : Queue} {carried own : List Event} {as : List Attempt} {a : Attempt}
    (hdrained : q.Drained as q') (hq : q.events = carried ++ own) (ha : a ∈ as)
    (hfront : carried <+: a.batch.events) : q'.events <:+ own := by
  have hevents := hdrained.events
  rw [hq] at hevents
  have hlength := congrArg List.length hevents
  have hhanded : a.batch.events.length ≤ (as.flatMap (·.batch.events)).length :=
    (sublist_flatMap_of_mem (fun a : Attempt => a.batch.events) ha).length_le
  have hcarried := hfront.length_le
  rw [List.length_append, List.length_append] at hlength
  refine List.suffix_of_suffix_length_le ⟨_, hevents⟩ (List.suffix_append _ _) ?_
  omega

/-- **What a task returns** is new in the window, if the task ran to its deadline, or what a failed
build gives back. -/
theorem returned_of_task (h : st.Sound) (hp : (s.opened around st).population.Distinct)
    (hon : around.OnTime origin)
    (hlast : (s.opening around st).finish.millis + s.pace.grace < 0xFFFFFFFFFFFFFFFF)
    (hdue : st.Due origin) {t : Task} (ht : t ∈ s.tasks around st) {c : Carried}
    (hc : c ∈ (s.reportOf around st t).returned) :
    ((s.reportOf around st t).succeeded ∧
        c.events.Sublist (t.kept s.planner around.generator (s.opening around st)) ∧
        ∀ x ∈ c.events, (s.opening around st).contains x.time) ∨
      (∃ cause returned, (s.reportOf around st t).finish = .buildFailed cause returned ∧
          c ∈ returned) ∧
        c.events = st.backlog.eventsOf c.user.id := by
  obtain ⟨i, hi, hid, hcarried, hserves⟩ := serves_of_returned h hp ht hc
  have hne : c.events ≠ [] := (performed s around st t).returned_places.2 c hc
  generalize hleft : c.events = left at hserves hne
  generalize hserved : attemptsFor i.user.id (s.reportOf around st t).attempts = as at hserves
  generalize i.user.written (s.reportOf around st t).users = v at hserves
  cases hserves with
  | idle _ _ _ => exact absurd rfl hne
  | @paced run u own _ q hrun _ _ hinside hkept _ hdrained =>
    refine .inl ?_
    cases hbroken : run.broken with
    | some breakdown =>
      rw [hbroken] at hne
      exact absurd rfl hne
    | none =>
      have hsuffix : q.events <:+ own := by
        by_cases hnone : i.carried = []
        · exact ⟨_, by simpa [hnone] using hdrained.events⟩
        · obtain ⟨-, a, ha, u, howner, hsame, -, hfront⟩ :=
            first_tick_of_task h hp hon hlast hdue ht hrun hbroken hi hnone
          refine left_suffix hdrained rfl ?_ hfront
          rw [← hserved, TaskReport.attempts, hrun]
          exact List.mem_filter.2 ⟨ha, by simp [Batch.isFor, howner, hsame]⟩
      exact ⟨TaskReport.succeeded_iff.2 ⟨run, hrun, hbroken⟩, hsuffix.sublist.trans hkept,
        fun x hx => hinside x (hsuffix.subset hx)⟩
  | @failed cause returned _ _ hfinish _ =>
    rw [TaskReport.returned, hfinish] at hc
    exact .inr ⟨⟨cause, returned, hfinish, hc⟩, by rw [hcarried, hid]⟩
  | crashed _ _ _ => exact absurd rfl hne

/-- A window ends no earlier than it begins, and no earlier than any of its tasks. -/
theorem le_elapsed_runWindow (s : Streamer) (around : Surroundings) (st : StreamState) {n : Nat}
    (hn : n = st.elapsed ∨ ∃ t ∈ s.tasks around st, n = (s.reportOf around st t).elapsed) :
    n ≤ (s.runWindow around st).state.elapsed := by
  have hmem : n ∈ st.elapsed :: (s.reports around st).map (·.elapsed) := by
    rcases hn with rfl | ⟨t, ht, rfl⟩
    · exact List.mem_cons_self
    · exact List.mem_cons_of_mem _ (List.mem_map_of_mem (List.mem_map_of_mem ht))
  rw [runWindow_elapsed]
  exact List.le_max_of_mem hmem

/-- **A window of a clock on time leaves nothing that is not due when it ends.** -/
theorem runWindow_due (h : st.Sound) (hp : (s.opened around st).population.Distinct)
    (hon : around.OnTime origin)
    (hlast : (s.opening around st).finish.millis + s.pace.grace < 0xFFFFFFFFFFFFFFFF)
    (hdue : st.Due origin) : (s.runWindow around st).state.Due origin := by
  intro x hx
  obtain ⟨c, hc, hx⟩ := List.mem_flatMap.1 hx
  obtain ⟨t, ht, d, hd, -, hperm⟩ := exists_returned_of_entry h hp hc
  have hx := hperm.mem_iff.1 hx
  rw [Instant.lt_def]
  rcases returned_of_task h hp hon hlast hdue ht hd with ⟨hsucceeded, -, hinside⟩ | ⟨-, hevents⟩
  · have hlt := ((Window.contains_iff _ _).1 (hinside x hx)).2
    have hpast := (performed s around st t).past_deadline (hon.taskClock t.shard) hlast hsucceeded
    have hle := le_elapsed_runWindow s around st (.inr ⟨t, ht, rfl⟩)
    rw [Instant.lt_def] at hlt hpast
    rw [Instant.millis_plus] at hpast ⊢
    omega
  · rw [hevents] at hx
    have hlt := hdue x (Backlog.mem_events_of_mem_eventsOf hx)
    have hle := le_elapsed_runWindow s around st (.inl rfl)
    rw [Instant.lt_def, Instant.millis_plus] at hlt
    rw [Instant.millis_plus]
    omega

theorem wait_due (hdue : st.Due origin) (n : Nat) : (st.wait n).Due origin := by
  intro x hx
  have hlt := hdue x hx
  rw [Instant.lt_def, Instant.millis_plus] at hlt ⊢
  simp only [StreamState.wait]
  omega

/-- **A window of a clock on time carries over** no event that it took in, unless a build failed. -/
theorem runWindow_carriesOver (h : st.Sound) (hp : (s.opened around st).population.Distinct)
    (hon : around.OnTime origin)
    (hlast : (s.opening around st).finish.millis + s.pace.grace < 0xFFFFFFFFFFFFFFFF)
    (hdue : st.Due origin) : Episode.CarriesOver ⟨around, st, s.runWindow around st⟩ s := by
  refine ⟨fun c hc => ?_, fun c hc => ?_⟩
  · obtain ⟨t, ht, i, hi, hid, hcarried⟩ := exists_task_of_entry h hp hc
    refine ⟨s.reportOf around st t, ?_, i, ?_, hid, hcarried, fun hsucceeded => ?_⟩
    · rw [runWindow_reports]
      exact List.mem_map_of_mem ht
    · rw [(performed s around st t).task_eq]
      exact hi
    · obtain ⟨run, hrun, hbroken⟩ := TaskReport.succeeded_iff.1 hsucceeded
      have hne : i.carried ≠ [] := hcarried ▸ h.backlog.nonempty c hc
      obtain ⟨htick, a, ha, u, howner, hsame, hcut, hfront⟩ :=
        first_tick_of_task h hp hon hlast hdue ht hrun hbroken hi hne
      have hmem : a ∈ s.attempts around st :=
        mem_attempts.2 ⟨t, ht, by rw [TaskReport.attempts, hrun]; exact ha⟩
      refine ⟨run, hrun, htick, a.batch, ?_, ?_, ?_, hcut, hcarried ▸ hfront⟩
      · rw [← Run.batch_attempts]
        exact List.mem_map_of_mem ha
      · rw [runWindow_batches]
        exact List.mem_append_right _ (List.mem_map_of_mem hmem)
      · simp [Batch.isFor, howner, hsame, hid]
  · obtain ⟨t, ht, d, hd, hid, hperm⟩ := exists_returned_of_entry h hp hc
    refine ⟨s.reportOf around st t, ?_, ?_⟩
    · rw [runWindow_reports]
      exact List.mem_map_of_mem ht
    · simp only [runWindow_window, (performed s around st t).task_eq]
      rcases returned_of_task h hp hon hlast hdue ht hd with
        ⟨hsucceeded, hkept, hinside⟩ | ⟨⟨cause, returned, hfinish, hd⟩, -⟩
      · exact .inl ⟨hsucceeded, ⟨_, hperm.symm, hkept⟩, fun x hx => hinside x (hperm.mem_iff.1 hx)⟩
      · exact .inr ⟨cause, returned, hfinish, d, hd, hid, hperm⟩

/-! ## How late windows end -/

theorem length_successor_le (w : Window) (now : Instant) :
    (w.successor now).1.length ≤ w.length ∧
      (w.successor now).1.finish.millis ≤ max w.finish.millis now.millis + w.length := by
  unfold Window.successor
  simp only
  split <;> simp only [Window.length, Window.ofLength, Instant.since, Instant.millis_plus] <;> omega

/-- A window is no longer than the settings say and ends within its length of the clock or of the
window before. -/
theorem opening_within {length n : Nat} (hclock : around.clock = .startingAt origin)
    (hlength : s.settings.window.wholeMillis ≤ length) (h : st.Within origin length n) :
    (s.opening around st).finish.millis ≤ n + length ∧ (s.opening around st).length ≤ length := by
  have hreading := h.reading
  unfold opening nextWindow
  rw [hclock]
  cases hlast : st.last with
  | none =>
    simp only [Window.ofLength, Window.length, Clock.startingAt, Instant.since, Instant.millis_plus]
    omega
  | some last =>
    obtain ⟨hfinish, hle⟩ := h.last last hlast
    obtain ⟨hsuccessor, hend⟩ := length_successor_le last (origin.plus st.elapsed)
    rw [Instant.millis_plus] at hend
    simp only [Clock.startingAt]
    omega

/-- Where deliveries take no time a task ends within one interval of its deadline. -/
theorem elapsed_reportOf_le (hon : around.OnTime origin) (hlatency : ∀ b, around.sink.latency b = 0)
    (t : Task) : (s.reportOf around st t).elapsed ≤ max st.elapsed
      ((s.opening around st).finish.millis + s.pace.grace + 1 - origin.millis +
        s.pace.interval.millis - 1) := by
  have hperformed := performed s around st t
  generalize s.reportOf around st t = r at hperformed
  cases hperformed with
  | paced _ _ _ _ hpace =>
    simp only
    rw [hpace, hon.taskClock]
    refine (pace_elapsed_le hlatency).trans ?_
    simp only [Clock.startingAt, Instant.millis_plus]
    omega
  | failed _ _ _ => exact Nat.le_max_left _ _
  | crashed _ _ => exact Nat.le_max_left _ _

/-- A window ends when the last of its tasks does. -/
theorem elapsed_runWindow_le {n : Nat} (hst : st.elapsed ≤ n)
    (h : ∀ t ∈ s.tasks around st, (s.reportOf around st t).elapsed ≤ n) :
    (s.runWindow around st).state.elapsed ≤ n := by
  rw [runWindow_elapsed]
  refine (List.max_le_iff _).2 fun m hm => ?_
  rcases List.mem_cons.1 hm with rfl | hm
  · exact hst
  · rw [reports, List.map_map] at hm
    obtain ⟨t, ht, rfl⟩ := List.mem_map.1 hm
    exact h t ht

theorem runWindow_within {length n : Nat} (hon : around.OnTime origin)
    (hlatency : ∀ b, around.sink.latency b = 0) (hlength : s.settings.window.wholeMillis ≤ length)
    (h : st.Within origin length n) : (s.runWindow around st).state.Within origin length
      (n + length + s.pace.grace + 1 + s.pace.interval.millis) := by
  obtain ⟨hfinish, hle⟩ := opening_within hon.clock hlength h
  have hreading := h.reading
  have helapsed : (s.runWindow around st).state.elapsed ≤ max st.elapsed
      ((s.opening around st).finish.millis + s.pace.grace + 1 - origin.millis +
        s.pace.interval.millis - 1) :=
    elapsed_runWindow_le (Nat.le_max_left _ _) fun t _ => elapsed_reportOf_le hon hlatency t
  refine ⟨by omega, fun w hw => ?_⟩
  rw [runWindow_last, Option.some.injEq] at hw
  subst hw
  exact ⟨by omega, hle⟩

/-- **Where deliveries take no time, windows end in time**: each within its length, the grace and one
interval of the one before and of the time that passes between them. -/
theorem Recorded.finish_le {st' : StreamState} {os : List Occasion} {es : List Episode}
    {length n : Nat} (h : s.Recorded st os es st')
    (hlength : s.settings.window.wholeMillis ≤ length) (hst : st.Within origin length n)
    (htime : ∀ o ∈ os, o.around.OnTime origin ∧ ∀ b, o.around.sink.latency b = 0) :
    ∀ e ∈ es, e.around.OnTime origin ∧ e.run.window.finish.millis + s.pace.grace ≤
      n + totalOf (·.wait) os + os.length * (length + s.pace.grace + 1 + s.pace.interval.millis) := by
  induction h generalizing n with
  | nil st => exact fun _ he => absurd he List.not_mem_nil
  | @cons st st' o os es _ ih =>
    obtain ⟨⟨hon, hlatency⟩, hlater⟩ := List.forall_mem_cons.1 htime
    have hwait : (st.wait o.wait).Within origin length (n + o.wait) := by
      refine ⟨?_, fun w hw => ?_⟩
      · have hreading := hst.reading
        simp only [StreamState.wait]
        omega
      · have hlast := hst.last w hw
        omega
    obtain ⟨hfinish, -⟩ := opening_within hon.clock hlength hwait
    have htail := ih (runWindow_within hon hlatency hlength hwait) hlater
    rw [totalOf_cons, List.length_cons, Nat.succ_mul]
    refine List.forall_mem_cons.2 ⟨⟨hon, ?_⟩, fun e he => ⟨(htail e he).1, ?_⟩⟩
    · simp only [runWindow_window]
      omega
    · have hle := (htail e he).2
      omega

/-! ## Histories -/

/-- **Nothing is carried over twice**: in every history of users with different identities on a clock
that only moves while tasks rest, all that waits when a window begins is handed over on the first
tick of its task, unless that fails to build or crashes; and all that waits when the window ends is
new in it or was given back by a build that failed in it. -/
theorem record_carriesOver (s : Streamer) (population : Population) (entropy : Nat)
    (origin : Instant) {os : List Occasion} {es : List Episode} {st : StreamState}
    (h : s.record os (s.start population entropy) = .ok (es, st)) (hp : st.population.Distinct)
    (htime : ∀ e ∈ es, e.around.OnTime origin ∧
      e.run.window.finish.millis + s.pace.grace < 0xFFFFFFFFFFFFFFFF) :
    ∀ e ∈ es, e.CarriesOver s := by
  have hstart : (s.start population entropy).Due origin := fun _ hx => absurd hx List.not_mem_nil
  refine (Recorded.preserves (P := fun st => st.Due origin) (fun _ n hdue => wait_due hdue n) ?_
    (recorded_of_record h) (start_sound s population entropy) hp hstart htime).2
  rintro around st hnow hopened hdue ⟨hon, hlast⟩
  simp only [runWindow_window] at hlast
  exact ⟨runWindow_due hnow hopened hon hlast hdue,
    runWindow_carriesOver hnow hopened hon hlast hdue⟩

theorem record_carriesOver_daily : ∃ es st,
    daily.record Occasion.twoDays (daily.start .single 0) = .ok (es, st) ∧ es.length = 2 ∧
      st.population.Distinct ∧
      (∀ e ∈ es, e.around.OnTime .zero ∧
        e.run.window.finish.millis + daily.pace.grace < 0xFFFFFFFFFFFFFFFF) ∧
      ∀ e ∈ es, e.CarriesOver daily := by
  obtain ⟨es, st, h, hsize⟩ := daily_record
  have hp := Population.distinct_of_size_le_one hsize
  have hrecorded := recorded_of_record h
  have hlength := congrArg List.length hrecorded.around
  rw [List.length_map, List.length_map] at hlength
  have hon : Surroundings.twoEvents.OnTime .zero ∧ ∀ b, Surroundings.twoEvents.sink.latency b = 0 :=
    ⟨⟨rfl, fun _ => rfl⟩, fun _ => rfl⟩
  have hstart : (daily.start .single 0).Within .zero daily.settings.window.wholeMillis 0 :=
    ⟨Nat.le_refl 0, fun _ hw => by cases hw⟩
  have hbound := hrecorded.finish_le (Nat.le_refl _) hstart (by simp [Occasion.twoDays, hon])
  have htime : ∀ e ∈ es, e.around.OnTime .zero ∧
      e.run.window.finish.millis + daily.pace.grace < 0xFFFFFFFFFFFFFFFF := fun e he => by
    obtain ⟨hclock, hle⟩ := hbound e he
    exact ⟨hclock, Nat.lt_of_le_of_lt hle (by decide)⟩
  exact ⟨es, st, h, hlength, hp, htime, record_carriesOver daily .single 0 .zero h hp htime⟩

end Streamer

end ShopTraffic
