import Mathlib
import ShopTraffic.Proofs.Calls
import ShopTraffic.Proofs.Passages

/-!
# The limits of a stream

How much a window can hold, and that nothing crashes while it holds no more than can be counted and
its collaborators do not crash themselves.

* `generateUser_length_le`, `newlyKept_length_le` — the new events of a user and of a window;
* `Surroundings.Quiet`, `reportOf_calm` — where no collaborator crashes no task does, if its events
  can be counted;
* `Generator.Steady` — where no session stops early; `Task.kept_ne_nil` — a build that keeps something;
* `size_opened_le` — how many users a window can add.
-/

set_option autoImplicit false

namespace ShopTraffic

open Chance

/-! ## Sessions -/

/-- The sessions planned for a window are no more than a day can have. -/
theorem length_planWindow_le {p : Planner} {m : Nat} (h : ∀ c ∈ p.counts.values, c ≤ m) (w : Window)
    (s : Source) : (p.planWindow w s).1.length ≤ m := by
  have hcount : (p.count s).1 ≤ m := h _ (p.counts.draw_mem s)
  rw [Planner.planWindow_eq_filter]
  exact (List.length_filter_le _ _).trans ((p.length_planDay _ s).trans_le hcount)

theorem runSessions_length_le {generator : Generator} {n : Nat}
    (h : ∀ user start source, (generator user start source).events.length ≤ n) :
    ∀ (starts : List Instant) (user : User) (source : Source),
      (runSessions generator starts user source).events.length ≤ n * starts.length
  | [], _, _ => Nat.zero_le _
  | start :: starts, user, source => by
    have hrun : (generator.run (user.moveTo start) start source).events.length ≤ n := h _ _ _
    have hmul : n * (starts.length + 1) = n * starts.length + n := Nat.mul_succ _ _
    unfold runSessions
    simp only [List.length_cons, hmul]
    split
    · omega
    · have hrest := runSessions_length_le h starts
        (generator.run (user.moveTo start) start source).user
        (generator.run (user.moveTo start) start source).source
      rw [List.length_append]
      omega

/-- What a user can emit in a window, by what a session can emit and how many a day can have. -/
theorem generateUser_length_le {p : Planner} {generator : Generator} {m n : Nat}
    (hcounts : ∀ c ∈ p.counts.values, c ≤ m)
    (hevents : ∀ user start source, (generator user start source).events.length ≤ n) (w : Window)
    (user : User) (s : Source) : (generateUser p generator w user s).events.length ≤ n * m := by
  have hplan := length_planWindow_le hcounts w s
  unfold generateUser
  generalize p.planWindow w s = planned at hplan
  obtain ⟨starts, s⟩ := planned
  exact (runSessions_length_le hevents starts user s).trans (Nat.mul_le_mul_left n hplan)

/-- Sessions stop early only for a reason for which the generator does. -/
theorem runSessions_stop {generator : Generator} {stop : Stop GenerationError}
    (h : ∀ user start source, (generator user start source).stop ≠ some stop)
    (starts : List Instant) (user : User) (source : Source) :
    (runSessions generator starts user source).stop ≠ some stop := by
  induction starts generalizing user source with
  | nil => exact fun hnone => by cases hnone
  | cons start starts ih =>
    have hrun : (generator.run (user.moveTo start) start source).stop ≠ some stop := h _ _ _
    unfold runSessions
    simp only
    split
    · exact hrun
    · exact ih _ _

/-- A generator that stops early is the only reason for which generating does. -/
theorem generateUser_stop {generator : Generator} {stop : Stop GenerationError}
    (h : ∀ user start source, (generator user start source).stop ≠ some stop) (p : Planner)
    (w : Window) (user : User) (s : Source) :
    (generateUser p generator w user s).stop ≠ some stop := by
  unfold generateUser
  generalize p.planWindow w s = planned
  obtain ⟨starts, s⟩ := planned
  exact runSessions_stop h starts user s

theorem generateAll_stop {generator : Generator} {stop : Stop GenerationError}
    (h : ∀ user start source, (generator user start source).stop ≠ some stop) (p : Planner)
    (w : Window) (intakes : List Intake) (s : Source) :
    (generateAll p generator w intakes s).stop ≠ some stop := by
  intro hstop
  rw [(generateAll_made p generator w intakes s).stop] at hstop
  obtain ⟨t, ht, hstop⟩ := List.exists_of_findSome?_eq_some hstop
  obtain ⟨c, hc, hstop⟩ := List.exists_of_findSome?_eq_some hstop
  obtain ⟨source, hrun⟩ := ((turns_made p generator w intakes s t ht).calls c hc).run
  rw [hrun] at hstop
  exact h _ _ _ hstop

/-! ## Tasks -/

/-- Collaborators that never crash. A generator may still refuse a session, and a sink a batch. -/
structure Surroundings.Quiet (around : Surroundings) : Prop where
  generator : ∀ user start source crash,
    (around.generator user start source).stop ≠ some (.crash crash)
  sink : ∀ b, around.sink.crash? b = none

theorem generateAll_length_le {p : Planner} {generator : Generator} {w : Window} {n : Nat}
    (h : ∀ user s, (generateUser p generator w user s).events.length ≤ n) :
    ∀ (intakes : List Intake) (s : Source),
      ((generateAll p generator w intakes s).drafts.flatMap (·.kept w)).length ≤ n * intakes.length
  | [], _ => Nat.zero_le _
  | i :: rest, s => by
    have huser := h i.user s
    have hmul : n * (rest.length + 1) = n * rest.length + n := Nat.mul_succ _ _
    unfold generateAll
    simp only [List.length_cons, hmul]
    split
    · exact Nat.zero_le _
    · have hrest := generateAll_length_le h rest (generateUser p generator w i.user s).source
      have hkept : (Draft.kept ⟨(generateUser p generator w i.user s).user, i.carried,
          (generateUser p generator w i.user s).events⟩ w).length ≤
          (generateUser p generator w i.user s).events.length := by
        unfold Draft.kept
        rw [(byTime_perm _).length_eq]
        exact List.length_filter_le _ _
      rw [List.flatMap_cons, List.length_append]
      omega

namespace Task

variable {t : Task} {p : Planner} {pace : Pace} {around : Surroundings} {w : Window} {start : Nat}

theorem kept_length_le {generator : Generator} {n : Nat}
    (h : ∀ user s, (generateUser p generator w user s).events.length ≤ n) :
    (t.kept p generator w).length ≤ n * t.intakes.length := by
  unfold kept
  split
  · simp only
    split
    · exact Nat.zero_le _
    · exact generateAll_length_le h t.intakes t.source
  · exact Nat.zero_le _

theorem perform_finish (hquiet : around.Quiet) (crash : Crash) :
    (t.perform p pace around w start).finish ≠ .buildCrashed crash := by
  have hstop := generateAll_stop (fun user start source => hquiet.generator user start source crash)
    p w t.intakes t.source
  unfold perform prepare build
  intro hfinish
  split at hfinish
  · cases hfinish
  · cases hfinish
  · rename_i hprepared
    cases hfinish
    simp only at hprepared
    split at hprepared
    · split at hprepared
      · cases hprepared
      · rename_i hcrash
        cases hprepared
        exact hstop hcrash
      · cases hprepared
    · cases hprepared

/-- **A task crashes only where a collaborator does or a count leaves its range.** -/
theorem perform_calm (hquiet : around.Quiet)
    (hroom : ∀ i ∈ t.intakes,
      i.carried.length + (t.kept p around.generator w).length < 0x10000000000000000) :
    (t.perform p pace around w start).crashed = false := by
  have hperformed := t.perform_performed p pace around w start
  have hfinish : ∀ crash, (t.perform p pace around w start).finish ≠ .buildCrashed crash :=
    perform_finish hquiet
  generalize t.perform p pace around w start = r at hperformed hfinish
  cases hperformed with
  | @paced drafts tally users run hdrafts hkept _ _ hrun =>
    have hbroken : run.broken = none := by
      rw [hrun]
      refine pace_unbroken hquiet.sink fun q hq => ?_
      obtain ⟨d, hd, hq⟩ := List.mem_filterMap.1 hq
      obtain ⟨hne, rfl⟩ := Draft.queue?_eq_some_iff.1 hq
      obtain ⟨i, hi, hof⟩ := exists_right_of_forall₂ hdrafts hd
      have hown : (d.kept w).Sublist (t.kept p around.generator w) := by
        rw [← hkept]
        exact sublist_flatMap_of_mem (·.kept w) hd
      have hlength := hown.length_le
      have hi := hroom i hi
      rw [Draft.settledUser_of_queued hne]
      refine ⟨(Queue.counted_beginWindow _ _).fits, ?_⟩
      simp only [User.beginWindow, Draft.queued, List.length_append, hof.carried]
      omega
    simp [TaskReport.crashed, hbroken]
  | failed _ _ _ => rfl
  | crashed _ _ => exact absurd rfl (hfinish _)

end Task

/-! ## Sessions that come to their end -/

/-- Every session of the generator comes to its end. -/
def Generator.Steady (generator : Generator) : Prop :=
  ∀ user start source, (generator user start source).stop = none

theorem generateUser_steady {generator : Generator} (h : generator.Steady) (p : Planner) (w : Window)
    (user : User) (source : Source) : (generateUser p generator w user source).stop = none := by
  rw [Option.eq_none_iff_forall_ne_some]
  intro stop
  apply generateUser_stop
  intro user start source hsome
  rw [h] at hsome
  cases hsome

theorem generateAll_steady {generator : Generator} (h : generator.Steady) (p : Planner) (w : Window)
    (intakes : List Intake) (source : Source) :
    (generateAll p generator w intakes source).stop = none := by
  rw [Option.eq_none_iff_forall_ne_some]
  intro stop
  apply generateAll_stop
  intro user start source hsome
  rw [h] at hsome
  cases hsome

namespace Task

variable {t : Task} {p : Planner} {around : Surroundings} {w : Window}

/-- A task whose sessions all come to their end is paced. -/
theorem exists_run (t : Task) (p : Planner) (pace : Pace) (w : Window) (start : Nat)
    (hsteady : around.generator.Steady) : ∃ run, (t.perform p pace around w start).run? = some run := by
  have hstop := generateAll_steady hsteady p w t.intakes t.source
  unfold perform prepare build
  split
  · exact ⟨_, rfl⟩
  · rename_i hprepared
    split at hprepared
    · simp only [hstop] at hprepared
      cases hprepared
    · cases hprepared
  · rename_i hprepared
    split at hprepared
    · simp only [hstop] at hprepared
      cases hprepared
    · cases hprepared

/-- A build whose sessions emit nothing keeps nothing. -/
theorem kept_of_silent
    (hsilent : ∀ user start source, (around.generator user start source).events = []) :
    t.kept p around.generator w = [] := by
  have huser : ∀ user s, (generateUser p around.generator w user s).events.length ≤ 0 := by
    intro user s
    unfold generateUser
    generalize p.planWindow w s = planned
    obtain ⟨starts, source⟩ := planned
    have hle : (runSessions around.generator starts user source).events.length ≤
        0 * starts.length :=
      runSessions_length_le (fun user start source => by rw [hsilent, List.length_nil]) starts user
        source
    rwa [Nat.zero_mul] at hle
  have hlength := t.kept_length_le huser
  rw [Nat.zero_mul] at hlength
  exact List.eq_nil_of_length_eq_zero (Nat.le_zero.1 hlength)

/-- A build keeps something if its first user has a session with an event inside the window. -/
theorem kept_ne_nil {generator : Generator} (hgenerates : t.generates)
    (hintakes : t.intakes ≠ []) (hsteady : generator.Steady)
    (hplan : ∀ source, (p.planWindow w source).1 ≠ [])
    (hemits : ∀ user start source, ∃ e ∈ (generator user start source).events, w.contains e.time) :
    t.kept p generator w ≠ [] := by
  have hstop := generateAll_steady hsteady p w t.intakes t.source
  unfold kept
  rw [if_pos hgenerates]
  simp only [hstop, Option.isSome_none, Bool.false_eq_true, if_false]
  cases hcases : t.intakes with
  | nil => exact absurd hcases hintakes
  | cons i rest =>
    have huser : ∃ e ∈ (generateUser p generator w i.user t.source).events, w.contains e.time := by
      have hne := hplan t.source
      unfold generateUser
      generalize p.planWindow w t.source = planned at hne
      obtain ⟨starts, source⟩ := planned
      cases starts with
      | nil => exact absurd rfl hne
      | cons start starts =>
        obtain ⟨e, he, hinside⟩ := hemits (i.user.moveTo start) start source
        have hnone : (generator.run (i.user.moveTo start) start source).stop = none :=
          hsteady _ _ _
        refine ⟨e, ?_, hinside⟩
        simp only [runSessions, hnone]
        exact List.mem_append_left _ he
    obtain ⟨e, he, hinside⟩ := huser
    have hnone := generateUser_steady hsteady p w i.user t.source
    simp only [generateAll, hnone, List.flatMap_cons]
    intro hnil
    have hfirst := (List.append_eq_nil_iff.1 hnil).1
    have hmem : e ∈ Draft.kept ⟨(generateUser p generator w i.user t.source).user, i.carried,
        (generateUser p generator w i.user t.source).events⟩ w :=
      Draft.mem_kept.2 ⟨he, hinside⟩
    rw [hfirst] at hmem
    cases hmem

end Task

namespace Streamer

variable {s : Streamer} {around : Surroundings} {st : StreamState}

/-! ## Windows -/

/-- A window hands a user to one task at most. -/
theorem length_allIntakes_le (h : st.Sound) (hp : st.population.Distinct) :
    (s.allIntakes st).length ≤ st.population.size := by
  have hplaces : ((s.allIntakes st).map (·.user.place)).Nodup := by
    refine List.Nodup.of_map Prod.fst ?_
    rw [List.map_map]
    exact (allIntakes_nodup (s := s) h hp).1
  have hsubset : (s.allIntakes st).map (·.user.place) ⊆ st.population.places := by
    intro place hplace
    obtain ⟨i, hi, rfl⟩ := List.mem_map.1 hplace
    exact allIntakes_places h hi
  have hle := (hplaces.subperm hsubset).length_le
  rwa [List.length_map, ← Population.size_eq] at hle

/-- **The new events of a window** are no more than its users can emit. -/
theorem newlyKept_length_le (h : st.Sound) (hp : (s.opened around st).population.Distinct) {n : Nat}
    (hn : ∀ user source, (generateUser s.planner around.generator (s.opening around st) user
      source).events.length ≤ n) :
    (s.newlyKept around st).length ≤ n * (s.opened around st).population.size := by
  have htasks : ∀ ts : List Task,
      (ts.flatMap fun t => t.kept s.planner around.generator (s.opening around st)).length ≤
        n * (ts.flatMap (·.intakes)).length := by
    intro ts
    induction ts with
    | nil => exact Nat.zero_le _
    | cons t ts ih =>
      have ht := t.kept_length_le hn
      rw [List.flatMap_cons, List.flatMap_cons, List.length_append, List.length_append, Nat.mul_add]
      omega
  have hall := htasks (s.tasks around st)
  rw [task_intakes] at hall
  exact hall.trans (Nat.mul_le_mul_left n (length_allIntakes_le (opened_sound h) hp))

/-- **No task of a window crashes** where no collaborator does, if all its events can be counted. -/
theorem reportOf_calm (h : st.Sound) (hquiet : around.Quiet)
    (hroom : st.backlog.events.length + (s.newlyKept around st).length < 0x10000000000000000)
    {t : Task} (ht : t ∈ s.tasks around st) : (s.reportOf around st t).crashed = false := by
  have hopened : (s.opened around st).Sound := opened_sound h
  have hall := congrArg Multiset.card (coe_allIntakes (s := s) hopened.backlog)
  rw [Multiset.coe_card, Multiset.coe_card, opened_backlog] at hall
  refine Task.perform_calm hquiet fun i hi => ?_
  have hcarried : i.carried.Sublist ((s.allIntakes (s.opened around st)).flatMap (·.carried)) :=
    sublist_flatMap_of_mem (fun i : Intake => i.carried) (mem_allIntakes_of_task ht hi)
  have hcarried := hcarried.length_le
  have hkept := (kept_sublist_newlyKept ht).length_le
  omega

theorem newcomers_le (s : Streamer) (today : Day) (st : StreamState) :
    s.newcomers today st ≤ s.settings.workload.newUsersPerDay := by
  unfold newcomers
  split
  · exact Nat.le_refl _
  · exact Nat.zero_le _

/-- The population of a day is that of the day before and the newcomers. -/
theorem size_beginDay (s : Streamer) (today : Day) (st : StreamState) :
    (s.beginDay today st).population.size = st.population.size + s.newcomers today st := by
  have hsize := st.population.size_grow (s.newcomers today st) st.source
  unfold beginDay
  split
  · rename_i hday
    unfold newcomers
    rw [if_neg fun h => h.2 hday]
    rfl
  · simp only [StreamState.notify]
    generalize st.population.grow _ st.source = grown at hsize
    obtain ⟨population, source⟩ := grown
    simp only
    generalize s.activeCount.draw source = drawn
    obtain ⟨count, source⟩ := drawn
    exact hsize

theorem size_opened (s : Streamer) (around : Surroundings) (st : StreamState) :
    (s.opened around st).population.size =
      st.population.size + s.newcomers (s.opening around st).start.day st := by
  unfold opened
  exact s.size_beginDay _ _

theorem size_opened_le (s : Streamer) (around : Surroundings) (st : StreamState) :
    (s.opened around st).population.size ≤
      st.population.size + s.settings.workload.newUsersPerDay := by
  rw [size_opened]
  exact Nat.add_le_add_left (newcomers_le s _ st) _

theorem size_runWindow (h : st.Sound) :
    (s.runWindow around st).state.population.size = (s.opened around st).population.size := by
  rw [Population.size_eq, Population.size_eq, runWindow_places h]

end Streamer

end ShopTraffic
