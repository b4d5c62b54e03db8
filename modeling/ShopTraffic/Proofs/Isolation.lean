import Mathlib
import ShopTraffic.Proofs.Agreement
import ShopTraffic.Proofs.Histories

/-!
# Tasks do not see each other

The tasks of a window share the population, the backlog, one source of chance and the numbers of
their batches. All but the numbers are shared out before the first task starts, and every user goes
to one task. So whatever a generator and a sink do to the users of one task, and however it ends,
the other tasks leave the same reports.

* `Surroundings.AgreesOutside` — two executions that differ for some users only;
* `allIntakes_places_nodup`, `places_disjoint` — every user goes to one task, even where identities
  repeat;
* `tasks_congr`, `reportOf_isolated` — the tasks of a window, and each of them;
* `step_isolates` — a window from every state of every history, run twice.
-/

set_option autoImplicit false

namespace ShopTraffic

open Chance

/-- Two executions differ in what generators and sinks do for the users of some places, and in what
sinks answer, but in nothing else. -/
structure Surroundings.AgreesOutside (around around' : Surroundings) (places : List (UserId × Nat)) :
    Prop where
  clock : around'.clock = around.clock
  taskClock : around'.taskClock = around.taskClock
  generator : ∀ place ∉ places, around.generator.AgreesOn around'.generator place
  sink : ∀ place ∉ places, around.sink.AgreesOn around'.sink place

namespace Streamer

variable {s : Streamer} {around around' : Surroundings} {st : StreamState}

/-! ## Every user goes to one task -/

/-- Every place is handed to one task at most. Seats tell the users of shards apart, and identities
tell them from those whose events alone are delivered. -/
theorem allIntakes_places_nodup (h : st.Sound) : ((s.allIntakes st).map (·.user.place)).Nodup := by
  have hseats : ((s.sharded st).map (·.seat)).Nodup := by
    have hselect : ((st.population.select st.active).map (·.seat)).Nodup := by
      rw [Population.select_seats h.seated]
      exact h.nodup
    exact hselect.sublist ((shardsOf_sublist _ _).map _)
  have hsharded : ((takeIn (s.sharded st) st.backlog).1.map (·.user.place)).Nodup := by
    have husers := congrArg (List.map fun u : User => u.seat) (takeIn_users (s.sharded st) st.backlog)
    rw [List.map_map] at husers
    apply List.Nodup.of_map Prod.snd
    rw [List.map_map]
    exact husers ▸ hseats
  have hrest := (h.backlog.filter fun c => c.user.id ∉ (s.sharded st).map (·.id)).ordered.nodup
  rw [allIntakes_eq, List.map_append, List.map_map, orphans_eq]
  apply List.Nodup.append hsharded
  · apply List.Nodup.of_map Prod.fst
    rw [List.map_map]
    exact hrest
  · intro place hplace hother
    obtain ⟨i, hi, rfl⟩ := List.mem_map.1 hplace
    obtain ⟨c, hc, hsame⟩ := List.mem_map.1 hother
    have hmem := List.mem_map_of_mem (f := fun i : Intake => i.user) hi
    rw [takeIn_users] at hmem
    have hid : c.user.id = i.user.id := congrArg Prod.fst hsame
    apply of_decide_eq_true (List.mem_filter.1 hc).2
    rw [hid]
    exact List.mem_map_of_mem hmem

/-- The users of two tasks are different ones. -/
theorem places_disjoint (h : st.Sound) {t t' : Task} (ht : t ∈ s.tasks around st)
    (ht' : t' ∈ s.tasks around st) (hne : t ≠ t') :
    ∀ i ∈ t.intakes, i.user.place ∉ t'.intakes.map (·.user.place) := by
  have hopened : (s.opened around st).Sound := opened_sound h
  have hnd := allIntakes_places_nodup (s := s) hopened
  rw [← task_intakes, List.map_flatMap, List.nodup_flatMap] at hnd
  have hsymm : Std.Symm (Function.onFun List.Disjoint fun t : Task =>
      t.intakes.map (·.user.place)) := ⟨fun _ _ hdisjoint => hdisjoint.symm⟩
  have hdisjoint := hnd.2.forall ht ht' hne
  exact fun i hi hmem => hdisjoint (List.mem_map_of_mem hi) hmem

/-! ## Two executions of a window -/

theorem opening_congr (h : around'.clock = around.clock) (s : Streamer) (st : StreamState) :
    s.opening around' st = s.opening around st := by
  unfold opening
  rw [h]

/-- What tasks are handed is settled before any of them starts. -/
theorem tasks_congr (h : around'.clock = around.clock) (s : Streamer) (st : StreamState) :
    s.tasks around' st = s.tasks around st := by
  unfold tasks opened opening
  rw [h]

/-- A task leaves the same report whatever happens to the users of another task. -/
theorem reportOf_isolated (h : st.Sound) {t t₀ : Task} (ht : t ∈ s.tasks around st)
    (ht₀ : t₀ ∈ s.tasks around st) (hne : t ≠ t₀)
    (hagree : around.AgreesOutside around' (t₀.intakes.map (·.user.place))) :
    s.reportOf around' st t = s.reportOf around st t := by
  have houtside := places_disjoint h ht ht₀ hne
  unfold reportOf
  rw [opening_congr hagree.clock, opened_elapsed, opened_elapsed]
  apply Task.perform_congr
  · intro i hi
    exact hagree.generator _ (houtside i hi)
  · intro i hi
    exact hagree.sink _ (houtside i hi)
  · rw [hagree.taskClock]

/-- **Tasks do not see each other**: from every state of every history, take two executions of a
window that differ in what happens to the users of one of its tasks: other sessions, an error, a
crash, deliveries that take longer or break off. Where newcomers find room, both run the window to
its end, with the same tasks; and every other task leaves the same report, with the counts of its
build, its ticks, its batches with their moments, its leftovers and its users. -/
theorem step_isolates (s : Streamer) (population : Population) (entropy : Nat)
    {os : List Occasion} {es : List Episode} {st : StreamState}
    (h : s.record os (s.start population entropy) = .ok (es, st)) (wait : Nat)
    {around around' : Surroundings}
    (hroom : st.population.size +
      s.newcomers (s.opening around (st.wait wait)).start.day (st.wait wait) ≤ maxItems)
    {t₀ : Task} (ht₀ : t₀ ∈ s.tasks around (st.wait wait))
    (hagree : around.AgreesOutside around' (t₀.intakes.map (·.user.place))) :
    ∃ run run', s.step around (st.wait wait) = .ok run ∧ s.step around' (st.wait wait) = .ok run' ∧
      run'.window = run.window ∧
      List.Forall₂ (fun r r' => r'.task = r.task ∧ (r.task ≠ t₀ → r' = r)) run.reports
        run'.reports := by
  have hsound : (st.wait wait).Sound :=
    wait_sound ((recorded_of_record h).sound (start_sound s population entropy)) wait
  have hopening := opening_congr hagree.clock s (st.wait wait)
  have hroom' : st.population.size +
      s.newcomers (s.opening around' (st.wait wait)).start.day (st.wait wait) ≤ maxItems := by
    rw [hopening]
    exact hroom
  refine ⟨_, _, step_eq_ok_iff.2 ⟨hroom, rfl⟩, step_eq_ok_iff.2 ⟨hroom', rfl⟩, ?_, ?_⟩
  · rw [runWindow_window, runWindow_window, hopening]
  · rw [runWindow_reports, runWindow_reports, reports, reports, tasks_congr hagree.clock,
      List.forall₂_map_left_iff, List.forall₂_map_right_iff]
    rw [List.forall₂_same]
    intro t ht
    have htask : (s.reportOf around (st.wait wait) t).task = t := (performed s around _ t).task_eq
    have htask' : (s.reportOf around' (st.wait wait) t).task = t := (performed s around' _ t).task_eq
    constructor
    · exact htask'.trans htask.symm
    · intro hne
      rw [htask] at hne
      exact reportOf_isolated hsound ht ht₀ hne hagree

end Streamer

/-! ## A window with two shards -/

/-- Everything as it is, but the users of some places crash the generator and take a second to
deliver. -/
def Surroundings.striking (around : Surroundings) (places : List (UserId × Nat)) : Surroundings :=
  { around with
    generator user start source :=
      if user.place ∈ places then
        { events := [], user, source, stop := some (.crash (.collaborator "strike")) }
      else around.generator user start source
    sink :=
      { around.sink with
        latency b := if b.owner.any (·.place ∈ places) then 1000 else around.sink.latency b } }

theorem Surroundings.agreesOutside_striking (around : Surroundings)
    (places : List (UserId × Nat)) : around.AgreesOutside (around.striking places) places := by
  constructor
  · rfl
  · rfl
  · intro place hplace user start source hsame
    exact if_neg (hsame ▸ hplace)
  · intro place hplace b user howner hsame
    refine ⟨?_, rfl⟩
    apply if_neg
    rw [howner, Option.any_some, decide_eq_true_eq, hsame]
    exact hplace

/-- Two users. -/
def Population.pair : Population :=
  .ofUsers (Population.single.users.toList ++ [⟨.ofNat 2, .web,
    ⟨"Mozilla", "Firefox", "121.0", 1536, 864, "en_US", "1.1.1.2"⟩, 0, .zero, 0, 0, 0⟩])

/-- A stream of two shards, with two users active on every day. -/
def Streamer.twoShards : Streamer :=
  { Streamer.daily with
    settings := { Streamer.daily.settings with shards := 2 }
    activeCount := ⟨[2], by decide⟩ }

namespace Streamer

/-- The first window of the stream has a task for each of its shards. -/
theorem twoShards_tasks :
    ∃ t₀ ∈ twoShards.tasks .twoEvents (twoShards.start .pair 0),
      ∃ t₁ ∈ twoShards.tasks .twoEvents (twoShards.start .pair 0), t₁ ≠ t₀ := by
  have hday : (twoShards.start .pair 0).day ≠
      some (twoShards.opening .twoEvents (twoShards.start .pair 0)).start.day := by
    simp [start]
  have hcounts : ∀ count ∈ twoShards.activeCount.values, 2 ≤ count := by decide
  have hshard : ∀ i, i < 2 → ∃ t ∈ twoShards.tasks .twoEvents (twoShards.start .pair 0),
      t.shard = ⟨i⟩ := fun i hi =>
    exists_task_of_newDay (start_sound twoShards .pair 0) hday hcounts (Nat.le_refl 2) hi
  obtain ⟨t₀, ht₀, hshard₀⟩ := hshard 0 (by decide)
  obtain ⟨t₁, ht₁, hshard₁⟩ := hshard 1 (by decide)
  refine ⟨t₀, ht₀, t₁, ht₁, fun hsame => ?_⟩
  rw [hsame, hshard₀] at hshard₁
  cases hshard₁

theorem step_isolates_twoShards :
    ∃ t₀ ∈ twoShards.tasks .twoEvents ((twoShards.start .pair 0).wait 0),
      ∃ t₁ ∈ twoShards.tasks .twoEvents ((twoShards.start .pair 0).wait 0), t₁ ≠ t₀ ∧
      Surroundings.twoEvents.AgreesOutside
        (Surroundings.twoEvents.striking (t₀.intakes.map (·.user.place)))
        (t₀.intakes.map (·.user.place)) ∧
      ∃ run run', twoShards.step .twoEvents ((twoShards.start .pair 0).wait 0) = .ok run ∧
        twoShards.step (Surroundings.twoEvents.striking (t₀.intakes.map (·.user.place)))
          ((twoShards.start .pair 0).wait 0) = .ok run' ∧
        run'.window = run.window ∧
        List.Forall₂ (fun r r' => r'.task = r.task ∧ (r.task ≠ t₀ → r' = r)) run.reports
          run'.reports := by
  obtain ⟨t₀, ht₀, t₁, ht₁, hne⟩ := twoShards_tasks
  have hagree := Surroundings.twoEvents.agreesOutside_striking (t₀.intakes.map (·.user.place))
  have hrecord : twoShards.record [] (twoShards.start .pair 0) = .ok ([], twoShards.start .pair 0) :=
    rfl
  exact ⟨t₀, ht₀, t₁, ht₁, hne, hagree,
    step_isolates twoShards .pair 0 hrecord 0 (by decide) ht₀ hagree⟩

end Streamer

end ShopTraffic
