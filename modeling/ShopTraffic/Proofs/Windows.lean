import Mathlib
import ShopTraffic.Proofs.Dispatch
import ShopTraffic.Stream.History

/-!
# One window

What a window does, taken apart once: the window that opens, the state in which its tasks are
handed their work, and what the tasks leave.

* `Streamer.opening`, `Streamer.opened`, `Streamer.tasks`, `Streamer.reports` — the parts of a window;
* `opening_after`, `opening_not_past` — windows follow each other and none lies in the past;
* `runWindow_population`, `runWindow_backlog`, `runWindow_batches` and others — the parts of the state
  that a window leaves;
* `performed` — how every task of a window ends; `runWindow_sound` — between windows the state is
  sound.
-/

set_option autoImplicit false

namespace ShopTraffic

open Chance

/-! ## Books -/

namespace Books

theorem batches_enter (sink : Sink) (every : Nat) (b : Books) (a : ShardAttempt) :
    (b.enter sink every a).batches = b.batches ++ [a.attempt.batch] := by
  unfold enter batches
  simp only
  split <;> simp

/-- Batches are entered in their order, and none is ever taken out. -/
theorem batches_enterAll (sink : Sink) (every : Nat) (b : Books) (as : List ShardAttempt) :
    (b.enterAll sink every as).batches = b.batches ++ as.map (·.attempt.batch) := by
  unfold enterAll
  induction as generalizing b with
  | nil => simp
  | cons a as ih => rw [List.foldl_cons, ih, batches_enter, List.append_assoc]; rfl

theorem generated_enterAll (sink : Sink) (every : Nat) (b : Books) (as : List ShardAttempt) :
    (b.enterAll sink every as).counts.generated = b.counts.generated := by
  unfold enterAll
  induction as generalizing b with
  | nil => rfl
  | cons a as ih =>
    rw [List.foldl_cons, ih]
    unfold enter
    simp only
    split <;> rfl

/-- Where every batch is recorded the count of sent events is that of all batches. -/
theorem sent_enterAll (sink : Sink) (every : Nat) (b : Books) {as : List ShardAttempt}
    (h : ∀ a ∈ as, a.attempt.recorded) :
    (b.enterAll sink every as).counts.sent =
      b.counts.sent + (as.flatMap (·.attempt.batch.events)).length := by
  unfold enterAll
  induction as generalizing b with
  | nil => rfl
  | cons a as ih =>
    obtain ⟨ha, has⟩ := List.forall_mem_cons.1 h
    rw [List.foldl_cons, ih _ has, List.flatMap_cons, List.length_append, ← Nat.add_assoc]
    congr 1
    unfold enter
    simp only [ha, if_true]

end Books

namespace Streamer

/-! ## The parts of a window -/

section Parts

variable (s : Streamer) (around : Surroundings) (st : StreamState)

/-- The window that opens. -/
def opening : Window := (s.nextWindow st (around.clock.read st.elapsed)).1

/-- The state once the day of the window has begun. -/
def opened : StreamState :=
  s.beginDay (s.opening around st).start.day
    (st.notify (s.nextWindow st (around.clock.read st.elapsed)).2)

/-- The tasks of the window. -/
def tasks : List Task :=
  (dispatch (s.shares (s.opened around st)) (s.opened around st).source).1

/-- The report of a task of the window. -/
def reportOf (t : Task) : TaskReport :=
  t.perform s.planner s.pace around (s.opening around st) (s.opened around st).elapsed

/-- The reports of all tasks. -/
def reports : List TaskReport := (s.tasks around st).map (s.reportOf around st)

/-- The new events that the builds of the window keep. -/
def newlyKept : List Event :=
  (s.tasks around st).flatMap fun t => t.kept s.planner around.generator (s.opening around st)

/-- The batches of all tasks, in order, with what became of them. -/
def attempts : List Attempt := (inOrder (s.reports around st)).map (·.attempt)

theorem opened_backlog : (s.opened around st).backlog = st.backlog := by
  unfold opened beginDay
  split <;> rfl

theorem opened_elapsed : (s.opened around st).elapsed = st.elapsed := by
  unfold opened beginDay
  split <;> rfl

theorem opened_counts : (s.opened around st).books.counts = st.books.counts := by
  unfold opened beginDay
  split <;> rfl

theorem opened_batches : (s.opened around st).books.batches = st.books.batches := by
  unfold opened beginDay
  split <;> rfl

/-- A window closes on the reports of its tasks. -/
theorem runWindow_eq : ∃ source notices,
    s.runWindow around st = s.close around (s.opening around st)
      (({ s.opened around st with source, backlog := {} } : StreamState).notify notices)
      (s.reports around st) (joinOrder (s.reports around st)) :=
  ⟨(dispatch (s.shares (s.opened around st)) (s.opened around st).source).2, _, rfl⟩

theorem runWindow_window : (s.runWindow around st).window = s.opening around st := by
  obtain ⟨_, _, h⟩ := s.runWindow_eq around st
  rw [h]
  rfl

theorem runWindow_reports : (s.runWindow around st).reports = s.reports around st := by
  obtain ⟨_, _, h⟩ := s.runWindow_eq around st
  rw [h]
  rfl

theorem runWindow_last : (s.runWindow around st).state.last = some (s.opening around st) := by
  obtain ⟨_, _, h⟩ := s.runWindow_eq around st
  rw [h]
  rfl

/-- What the end of a window makes of the state it finds. -/
theorem close_state (w : Window) (reports joined : List TaskReport) :
    (s.close around w st reports joined).state.active = st.active ∧
      (s.close around w st reports joined).state.population =
        st.population.putAll (reports.flatMap (·.users)) ∧
      (s.close around w st reports joined).state.elapsed =
        (st.elapsed :: reports.map (·.elapsed)).max (List.cons_ne_nil _ _) ∧
      (s.close around w st reports joined).state.books.batches =
        st.books.batches ++ (inOrder reports).map (·.attempt.batch) :=
  ⟨rfl, rfl, rfl,
    Books.batches_enterAll around.sink s.settings.progressEvery st.books (inOrder reports)⟩

theorem runWindow_active :
    (s.runWindow around st).state.active = (s.opened around st).active := by
  obtain ⟨_, _, h⟩ := s.runWindow_eq around st
  rw [h, (close_state ..).1]
  rfl

theorem runWindow_population : (s.runWindow around st).state.population =
    (s.opened around st).population.putAll ((s.reports around st).flatMap (·.users)) := by
  obtain ⟨_, _, h⟩ := s.runWindow_eq around st
  rw [h, (close_state ..).2.1]
  rfl

theorem runWindow_backlog : (s.runWindow around st).state.backlog =
    joinBacklog (joinOrder (s.reports around st)) := by
  obtain ⟨_, _, h⟩ := s.runWindow_eq around st
  rw [h]
  rfl

theorem runWindow_elapsed : (s.runWindow around st).state.elapsed =
    (st.elapsed :: (s.reports around st).map (·.elapsed)).max (List.cons_ne_nil _ _) := by
  have helapsed := opened_elapsed s around st
  obtain ⟨_, _, h⟩ := s.runWindow_eq around st
  rw [h, (close_state ..).2.2.1]
  simp only [StreamState.notify, helapsed]

theorem runWindow_batches : (s.runWindow around st).state.books.batches =
    st.books.batches ++ (s.attempts around st).map (·.batch) := by
  obtain ⟨_, _, h⟩ := s.runWindow_eq around st
  rw [h, (close_state ..).2.2.2, ← opened_batches s around st]
  unfold attempts
  rw [List.map_map]
  rfl

theorem close_counts (w : Window) (reports joined : List TaskReport) :
    (s.close around w st reports joined).state.books.counts.generated =
        st.books.counts.generated + totalOf (·.generated) (reports.filterMap (·.tally?)) ∧
      (s.close around w st reports joined).state.books.counts.sent =
        (st.books.enterAll around.sink s.settings.progressEvery (inOrder reports)).counts.sent := by
  have hgenerated :=
    Books.generated_enterAll around.sink s.settings.progressEvery st.books (inOrder reports)
  simp only [close, StreamState.notify, bookRuns, Counts.add, taskCounts, Nat.add_zero, hgenerated,
    and_self]

theorem runWindow_generated : (s.runWindow around st).state.books.counts.generated =
    st.books.counts.generated +
      totalOf (·.generated) ((s.reports around st).filterMap (·.tally?)) := by
  obtain ⟨_, _, h⟩ := s.runWindow_eq around st
  rw [h, (close_counts ..).1, ← opened_counts s around st]
  rfl

theorem runWindow_sent (hrecorded : ∀ a ∈ s.attempts around st, a.recorded) :
    (s.runWindow around st).state.books.counts.sent =
      st.books.counts.sent + ((s.attempts around st).flatMap (·.batch.events)).length := by
  obtain ⟨_, _, h⟩ := s.runWindow_eq around st
  unfold attempts at hrecorded ⊢
  rw [h, (close_counts ..).2, ← opened_counts s around st, List.flatMap_map,
    Books.sent_enterAll around.sink s.settings.progressEvery _ fun a ha =>
      hrecorded _ (List.mem_map_of_mem ha)]
  rfl

end Parts

/-! ## Windows in time -/

section Time

variable (s : Streamer) (around : Surroundings) {st : StreamState}

theorem successor_start (w : Window) (now : Instant) : w.finish ≤ (w.successor now).1.start := by
  unfold Window.successor
  simp only
  split
  · rename_i hlate
    simp only [Window.ofLength, Instant.le_def]
    unfold Instant.since at hlate
    omega
  · exact Nat.le_refl _

theorem successor_not_past (w : Window) (now : Instant) : now ≤ (w.successor now).1.finish := by
  unfold Window.successor
  simp only
  split
  · exact Instant.le_plus _ _
  · rename_i hcontiguous
    have := now.millis_lt
    simp only [Window.ofLength, Instant.le_def, Instant.millis_plus]
    unfold Instant.since at hcontiguous
    omega

theorem successor_start_le_finish (w : Window) (now : Instant) :
    (w.successor now).1.start ≤ (w.successor now).1.finish := by
  unfold Window.successor
  simp only
  split <;> exact Instant.le_plus _ _

/-- A window begins no earlier than the one before it ended. -/
theorem opening_after {last : Window} (h : st.last = some last) :
    last.finish ≤ (s.opening around st).start := by
  unfold opening nextWindow
  rw [h]
  exact successor_start last _

theorem opening_start_le_finish (st : StreamState) :
    (s.opening around st).start ≤ (s.opening around st).finish := by
  unfold opening nextWindow
  split
  · exact Instant.le_plus _ _
  · exact successor_start_le_finish _ _

/-- No window lies in the past when it opens. -/
theorem opening_not_past (st : StreamState) :
    around.clock.read st.elapsed ≤ (s.opening around st).finish := by
  unfold opening nextWindow
  split
  · exact Instant.le_plus _ _
  · exact successor_not_past _ _

end Time

/-! ## The population and the backlog -/

theorem joinBacklog_eq (reports : List TaskReport) :
    joinBacklog reports = ({} : Backlog).absorb (reports.flatMap (·.returned)) := by
  unfold joinBacklog
  suffices h : ∀ b : Backlog, reports.foldl (fun b r => b.absorb r.returned) b =
      b.absorb (reports.flatMap (·.returned)) from h {}
  induction reports with
  | nil => intro b; rfl
  | cons r rest ih =>
    intro b
    rw [List.foldl_cons, ih, List.flatMap_cons]
    exact List.foldl_append.symm

section Step

variable {s : Streamer} {around : Surroundings} {st : StreamState}

theorem performed (s : Streamer) (around : Surroundings) (st : StreamState) (t : Task) :
    t.Performed s.pace around (s.opening around st) st.elapsed
      (t.kept s.planner around.generator (s.opening around st)) (s.reportOf around st t) := by
  unfold reportOf
  rw [opened_elapsed]
  exact t.perform_performed s.planner s.pace around (s.opening around st) st.elapsed

theorem task_intakes (s : Streamer) (around : Surroundings) (st : StreamState) :
    (s.tasks around st).flatMap (·.intakes) = s.allIntakes (s.opened around st) :=
  dispatch_intakes _ _

theorem kept_sublist_newlyKept {t : Task} (ht : t ∈ s.tasks around st) :
    (t.kept s.planner around.generator (s.opening around st)).Sublist (s.newlyKept around st) :=
  sublist_flatMap_of_mem (fun t : Task => t.kept s.planner around.generator (s.opening around st)) ht

theorem intakes_sublist {t : Task} (ht : t ∈ s.tasks around st) :
    t.intakes.Sublist (s.allIntakes (s.opened around st)) :=
  task_intakes s around st ▸ sublist_flatMap_of_mem (fun t : Task => t.intakes) ht

theorem mem_allIntakes_of_task {t : Task} (ht : t ∈ s.tasks around st) {i : Intake}
    (hi : i ∈ t.intakes) : i ∈ s.allIntakes (s.opened around st) :=
  (intakes_sublist ht).subset hi

/-- Every shard has its task. -/
theorem exists_task_of_shard {i : Nat} (hi : i < min s.settings.shards
      ((s.opened around st).population.select (s.opened around st).active).length) :
    ∃ t ∈ s.tasks around st, t.shard = ⟨i⟩ := by
  obtain ⟨share, hshare, hshard⟩ := exists_share hi
  rw [← dispatch_shares (s.shares (s.opened around st)) (s.opened around st).source] at hshare
  obtain ⟨t, ht, rfl⟩ := List.mem_map.1 hshare
  exact ⟨t, ht, hshard⟩

/-- A task is one of the shares of its window. -/
theorem share_of_task {t : Task} (ht : t ∈ s.tasks around st) :
    (t.shard, t.intakes, t.generates) ∈ s.shares (s.opened around st) := by
  rw [← dispatch_shares (s.shares (s.opened around st)) (s.opened around st).source]
  exact List.mem_map_of_mem ht

/-- A user that a task writes back is the user of a task. -/
theorem exists_task_of_user {v : User} (hv : v ∈ (s.reports around st).flatMap (·.users)) :
    ∃ t ∈ s.tasks around st, v ∈ (s.reportOf around st t).users := by
  rwa [reports, List.flatMap_map, List.mem_flatMap] at hv

/-- A task that generates is handed its users as the population has them. -/
theorem user_of_task {t : Task} (ht : t ∈ s.tasks around st) (hgenerates : t.generates) {i : Intake}
    (hi : i ∈ t.intakes) :
    (s.opened around st).population.users[i.user.seat]? = some i.user :=
  user_of_generates (share_of_task ht) hgenerates hi

/-- For any choice of users, the backlog after a window holds what its tasks return. -/
theorem coe_heldFor_runWindow (s : Streamer) (around : Surroundings) (st : StreamState)
    (p : UserId → Bool) :
    (heldFor p (s.runWindow around st).state.backlog.entries : Multiset Event) =
      heldFor p ((s.reports around st).flatMap (·.returned)) := by
  have hperm : ((joinOrder (s.reports around st)).flatMap (·.returned)).Perm
      ((s.reports around st).flatMap (·.returned)) :=
    (List.mergeSort_perm _ _).flatMap_right _
  rw [runWindow_backlog, joinBacklog_eq, Backlog.coe_heldFor_absorb]
  unfold heldFor
  simp only [List.filter_nil, List.flatMap_nil, Multiset.coe_nil, zero_add]
  exact Multiset.coe_eq_coe.2 ((hperm.filter _).flatMap_right _)

theorem wellFormed_runWindow (s : Streamer) (around : Surroundings) (st : StreamState) :
    (s.runWindow around st).state.backlog.WellFormed := by
  rw [runWindow_backlog, joinBacklog_eq]
  exact Backlog.wellFormed_empty.absorb _

/-- What holds of all entries that tasks return and survives a merge holds of the backlog. -/
theorem runWindow_backlog_forall {P : Carried → Prop}
    (hreturned : ∀ t ∈ s.tasks around st, ∀ c ∈ (s.reportOf around st t).returned, P c)
    (hmerge : ∀ c d, P c → P d → P { c with events := byTime (c.events ++ d.events) }) :
    ∀ c ∈ (s.runWindow around st).state.backlog.entries, P c := by
  rw [runWindow_backlog, joinBacklog_eq]
  refine Backlog.absorb_forall (fun _ hc => absurd hc List.not_mem_nil) (fun c hc => ?_) hmerge
  obtain ⟨r, hr, hc⟩ := List.mem_flatMap.1 hc
  obtain ⟨t, ht, rfl⟩ := List.mem_map.1 ((List.mergeSort_perm _ _).mem_iff.1 hr)
  exact hreturned t ht c hc

theorem opened_population (s : Streamer) (around : Surroundings) (st : StreamState) :
    st.population.places <+: (s.opened around st).population.places := by
  unfold opened beginDay
  split
  · exact List.prefix_rfl
  · exact Population.places_grow _ _ _

/-- Whoever joins at the beginning of a window sits on a new seat, with nothing assigned. -/
theorem opened_new (s : Streamer) (around : Surroundings) (st : StreamState) {u : User}
    (h : u ∈ (s.opened around st).population.users.toList) :
    u ∈ st.population.users.toList ∨
      u.sent = 0 ∧ u.total = 0 ∧ st.population.size ≤ u.seat := by
  unfold opened beginDay at h
  split at h
  · exact .inl h
  · exact Population.grow_new _ _ _ h

theorem beginDay_active (s : Streamer) (today : Day) {st : StreamState}
    (h : st.active.Nodup ∧ ∀ i ∈ st.active, i < st.population.size) :
    (s.beginDay today st).active.Nodup ∧
      ∀ i ∈ (s.beginDay today st).active, i < (s.beginDay today st).population.size := by
  unfold beginDay
  split
  · exact h
  · simp only [StreamState.notify]
    generalize st.population.grow _ st.source = grown
    obtain ⟨population, source⟩ := grown
    generalize s.activeCount.draw source = drawn
    obtain ⟨count, source⟩ := drawn
    exact population.sample_spec count source

/-- On a new day as many users are active as drawn, or all. -/
theorem length_active_beginDay (s : Streamer) {today : Day} {st : StreamState}
    (h : st.day ≠ some today) : ∃ count ∈ s.activeCount.values,
      (s.beginDay today st).active.length =
        min count (s.beginDay today st).population.size := by
  unfold beginDay
  rw [if_neg h]
  simp only [StreamState.notify]
  generalize st.population.grow _ st.source = grown
  obtain ⟨population, source⟩ := grown
  have hcount := s.activeCount.draw_mem source
  simp only
  generalize s.activeCount.draw source = drawn at hcount
  obtain ⟨count, source⟩ := drawn
  exact ⟨count, hcount, (distinct_spec population.size count source).length⟩

theorem opened_sound (h : st.Sound) : (s.opened around st).Sound := by
  have hbacklog := opened_backlog s around st
  have hplaces := opened_population s around st
  have hactive : (s.opened around st).active.Nodup ∧
      ∀ i ∈ (s.opened around st).active, i < (s.opened around st).population.size :=
    beginDay_active s _ ⟨h.nodup, h.seated⟩
  refine ⟨hbacklog ▸ h.backlog, hactive.1, hactive.2, fun c hc => ?_⟩
  rw [hbacklog] at hc
  exact hplaces.subset (h.resident c hc)

/-- On a new day every shard has its task as long as there are as many active users as shards. -/
theorem exists_task_of_newDay (h : st.Sound) {n : Nat}
    (hday : st.day ≠ some (s.opening around st).start.day)
    (hcounts : ∀ count ∈ s.activeCount.values, n ≤ count)
    (hsize : n ≤ (s.opened around st).population.size) {i : Nat} (hi : i < min s.settings.shards n) :
    ∃ t ∈ s.tasks around st, t.shard = ⟨i⟩ := by
  have hnew : (st.notify (s.nextWindow st (around.clock.read st.elapsed)).2).day ≠
      some (s.opening around st).start.day := hday
  obtain ⟨count, hcount, hlength⟩ := length_active_beginDay s hnew
  have hactive : (s.opened around st).active.length =
      min count (s.opened around st).population.size := hlength
  have hopened : (s.opened around st).Sound := opened_sound h
  have hselect := congrArg List.length (Population.select_seats hopened.seated)
  rw [List.length_map, hactive] at hselect
  apply exists_task_of_shard
  have hle : n ≤ count := hcounts count hcount
  rw [hselect]
  omega

/-- A place that a task is handed is one of the population. -/
theorem place_mem_of_task (h : st.Sound) {t : Task} (ht : t ∈ s.tasks around st)
    {place : UserId × Nat} (hplace : place ∈ t.intakes.map (·.user.place)) :
    place ∈ (s.opened around st).population.places := by
  obtain ⟨i, hi, rfl⟩ := List.mem_map.1 hplace
  exact allIntakes_places (opened_sound h) (mem_allIntakes_of_task ht hi)

/-- A window changes no place. -/
theorem runWindow_places (h : st.Sound) :
    (s.runWindow around st).state.population.places = (s.opened around st).population.places := by
  rw [runWindow_population]
  refine Population.places_putAll fun v hv => ?_
  obtain ⟨t, ht, hv⟩ := exists_task_of_user hv
  exact place_mem_of_task h ht ((performed s around st t).users_places hv)

/-- **Between windows the state is sound.** -/
theorem runWindow_sound (h : st.Sound) : (s.runWindow around st).state.Sound := by
  have hopened : (s.opened around st).Sound := opened_sound h
  have hplaces : (s.runWindow around st).state.population.places =
      (s.opened around st).population.places := runWindow_places h
  refine ⟨wellFormed_runWindow s around st, ?_, ?_, ?_⟩
  · rw [runWindow_active]
    exact hopened.nodup
  · rw [runWindow_active, Population.size_eq, hplaces, ← Population.size_eq]
    exact hopened.seated
  · rw [hplaces]
    refine runWindow_backlog_forall (fun t ht c hc => ?_) fun c d hc _ => hc
    exact place_mem_of_task h ht
      (((performed s around st t).returned_places).1.subset (List.mem_map_of_mem hc))

/-- Before the first window nobody is active and nothing is left over. -/
theorem fresh_sound (population : Population) (source : Source) :
    ({ population, source } : StreamState).Sound :=
  ⟨Backlog.wellFormed_empty, .nil, fun _ h => absurd h List.not_mem_nil,
    fun _ h => absurd h List.not_mem_nil⟩

theorem start_sound (s : Streamer) (population : Population) (entropy : Nat) :
    (s.start population entropy).Sound :=
  fresh_sound population _

theorem wait_sound (h : st.Sound) (n : Nat) : (st.wait n).Sound :=
  ⟨h.backlog, h.nodup, h.seated, h.resident⟩

end Step

end Streamer

end ShopTraffic
