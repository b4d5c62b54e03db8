import Mathlib
import ShopTraffic.Proofs.HoldUps
import ShopTraffic.Proofs.Log

/-!
# What crashes take with them

A task that crashes returns nothing, so whatever it has not handed over is gone. What a window reports
lost with it is another number: the events it was given when it started. That is exact for a build that
crashed. For a run that broke off it leaves out the new events of the build and counts carried events
that were handed over.

* `TaskReport.Loses` — what a task loses of its workload; `TaskReport.stranded` — where it is;
  `loses_stranded` — for every way a task can end;
* `TaskReport.Reported` — what is reported lost with a task, against what is;
* `record_losses` — every crash of every history is reported once, and how far the reports are off;
* `record_overstatesLoss` — an event that was handed over and is reported lost.
-/

set_option autoImplicit false

namespace ShopTraffic

open Chance

/-! ## One task -/

namespace TaskReport

/-- What a task loses of its workload, the events carried in and those its build kept: all that is
neither handed over nor returned. -/
def Loses (r : TaskReport) (kept : List Event) (lost : Multiset Event) : Prop :=
  ((r.attempts.flatMap (·.batch.events) : List Event) : Multiset Event) +
      (r.returned.flatMap (·.events) : List Event) + lost =
    (r.task.intakes.flatMap (·.carried) : List Event) + (kept : Multiset Event)

/-- Where lost events are: in the queues of a run that broke off, or among those carried into a build
that crashed. -/
def stranded (r : TaskReport) : List Event :=
  match r.finish with
  | .paced _ run => if run.broken.isSome then queuedEvents run.queues else []
  | .buildFailed _ _ => []
  | .buildCrashed _ => r.task.intakes.flatMap (·.carried)

variable {r : TaskReport} {kept : List Event} {lost lost' : Multiset Event}

/-- A task loses one thing and no other. -/
theorem Loses.unique (h : r.Loses kept lost) (h' : r.Loses kept lost') : lost = lost' :=
  add_left_cancel (h.trans h'.symm)

theorem stranded_of_calm (h : r.crashed = false) : r.stranded = [] := by
  unfold crashed at h
  unfold stranded
  split
  · rename_i hfinish
    rw [hfinish] at h
    exact if_neg (Bool.eq_false_iff.1 h)
  · rfl
  · rename_i hfinish
    rw [hfinish] at h
    cases h

theorem returned_of_crashed (h : r.crashed) : r.returned = [] := by
  unfold crashed at h
  unfold returned
  split
  · rename_i hfinish
    rw [hfinish] at h
    exact if_pos h
  · rename_i hfinish
    rw [hfinish] at h
    cases h
  · rfl

theorem crashed_of_brokeOff (h : r.brokeOff) : r.crashed := by
  unfold brokeOff run? at h
  unfold crashed
  split
  · rename_i hfinish
    rw [hfinish] at h
    exact h
  · rename_i hfinish
    rw [hfinish] at h
    cases h
  · rfl

/-- A build that crashed strands what was carried into it. -/
theorem stranded_of_built (h : r.crashed) (hnone : r.run? = none) :
    r.stranded = r.task.intakes.flatMap (·.carried) := by
  unfold crashed at h
  unfold run? at hnone
  unfold stranded
  split
  · rename_i hfinish
    rw [hfinish] at hnone
    cases hnone
  · rename_i hfinish
    rw [hfinish] at h
    cases h
  · rfl

/-- What is reported lost with a task that crashed, against what the task loses: with it nothing is
returned, and the report is off by the new events on one side and by those handed over on the other. -/
structure Reported (r : TaskReport) (w : WindowIndex) (kept : List Event) (lost : Multiset Event) :
    Prop where
  loses : r.Loses kept lost
  returned : r.returned = []
  events : (r.loss w).events + kept.length =
    (r.attempts.flatMap (·.batch.events)).length + Multiset.card lost

/-- A report is right exactly where as many events were handed over as are new. -/
theorem Reported.exact_iff {w : WindowIndex} (h : r.Reported w kept lost) :
    (r.loss w).events = Multiset.card lost ↔
      (r.attempts.flatMap (·.batch.events)).length = kept.length := by
  have hevents := h.events
  omega

theorem events_loss (r : TaskReport) (w : WindowIndex) :
    (r.loss w).events = (r.task.intakes.flatMap (·.carried)).length :=
  (length_flatMap_eq_totalOf _ _).symm

theorem Loses.reported (h : r.Loses kept lost) (hcrashed : r.crashed) (w : WindowIndex) :
    r.Reported w kept lost := by
  have hreturned := returned_of_crashed hcrashed
  have hcard := congrArg Multiset.card h
  rw [hreturned] at hcard
  simp only [List.flatMap_nil, Multiset.coe_nil, add_zero, Multiset.card_add, Multiset.coe_card]
    at hcard
  constructor
  · exact h
  · exact hreturned
  · rw [events_loss, hcard]

end TaskReport

/-- A build that crashed keeps nothing. -/
theorem Task.kept_of_buildCrashed {t : Task} {p : Planner} {pace : Pace} {around : Surroundings}
    {w : Window} {start : Nat} {crash : Crash}
    (h : (t.perform p pace around w start).finish = .buildCrashed crash) :
    t.kept p around.generator w = [] := by
  unfold perform prepare build at h
  unfold kept
  split
  · rename_i hgenerates
    rw [if_pos hgenerates] at h
    simp only at h ⊢
    split at h
    · rename_i hbuilt
      cases h
    · cases h
    · rename_i hcrashed
      split at hcrashed
      · cases hcrashed
      · rename_i hstop
        rw [hstop]
        rfl
      · cases hcrashed
  · rfl

/-- **What a task loses**, whatever way it ends. -/
theorem Task.Performed.loses_stranded {t : Task} {pace : Pace} {around : Surroundings} {w : Window}
    {start : Nat} {kept : List Event} {r : TaskReport}
    (h : t.Performed pace around w start kept r)
    (hcrashed : ∀ crash, r.finish = .buildCrashed crash → kept = []) :
    r.Loses kept r.stranded := by
  by_cases hcalm : r.crashed = false
  · have hnone := TaskReport.stranded_of_calm hcalm
    unfold TaskReport.Loses
    rw [hnone, h.task_eq, Multiset.coe_nil, add_zero]
    exact h.events hcalm
  · cases h with
    | @paced drafts tally users run hdrafts hkept hgenerated husers hrun =>
      -- A run that broke off returns nothing: its queues are lost with it.
      have hbroken : run.broken.isSome = true := Bool.of_not_eq_false hcalm
      unfold TaskReport.Loses
      rw [← Task.Performed.run_events (.paced hdrafts hkept hgenerated husers hrun) rfl]
      simp only [TaskReport.returned, TaskReport.stranded, hbroken, if_true]
      exact congrArg (· + _) (add_zero _)
    | failed _ _ _ => exact absurd rfl hcalm
    | @crashed crash users _ _ =>
      unfold TaskReport.Loses
      rw [hcrashed crash rfl, Multiset.coe_nil, add_zero]
      rfl

/-! ## Windows and histories -/

/-- The new events that the build of a task of an episode keeps. -/
def Episode.keptOf (s : Streamer) (e : Episode) (r : TaskReport) : List Event :=
  r.task.kept s.planner e.around.generator e.run.window

/-- The losses of a task of an episode. A task loses what is stranded with it, so one that does not
crash loses nothing; of one that crashes the report is off by what was handed over and what is new,
and is right if the crash came while the task was built. -/
structure Episode.Losing (s : Streamer) (e : Episode) (r : TaskReport) : Prop where
  loses : r.Loses (e.keptOf s r) r.stranded
  calm : r.crashed = false → r.stranded = []
  reported : r.crashed → r.Reported e.run.window.index (e.keptOf s r) r.stranded
  built : r.crashed → r.run? = none → (r.loss e.run.window.index).events = r.stranded.length

namespace Streamer

variable {s : Streamer} {around : Surroundings} {st st' : StreamState}

theorem reportOf_loses (s : Streamer) (around : Surroundings) (st : StreamState) (t : Task) :
    (s.reportOf around st t).Loses
      (t.kept s.planner around.generator (s.opening around st)) (s.reportOf around st t).stranded :=
  (performed s around st t).loses_stranded fun _ hcrash => Task.kept_of_buildCrashed hcrash

/-- **What a window reports lost**, against what each of its tasks loses. -/
theorem runWindow_losing (s : Streamer) (around : Surroundings) (st : StreamState) :
    ∀ r ∈ (s.runWindow around st).reports,
      Episode.Losing s ⟨around, st, s.runWindow around st⟩ r := by
  intro r hr
  rw [runWindow_reports] at hr
  obtain ⟨t, -, rfl⟩ := List.mem_map.1 hr
  have hkept : Episode.keptOf s ⟨around, st, s.runWindow around st⟩ (s.reportOf around st t) =
      t.kept s.planner around.generator (s.opening around st) := by
    unfold Episode.keptOf
    rw [runWindow_window, (performed s around st t).task_eq]
  have hloses := reportOf_loses s around st t
  rw [← hkept] at hloses
  constructor
  · exact hloses
  · exact TaskReport.stranded_of_calm
  · intro hcrashed
    exact hloses.reported hcrashed _
  · intro hcrashed hnone
    rw [TaskReport.events_loss, TaskReport.stranded_of_built hcrashed hnone]

/-- A history reports every task that crashed once, with all that it was given, and no other. -/
theorem Recorded.told_losses {os : List Occasion} {es : List Episode}
    (h : s.Recorded st os es st') : ∃ losses : List Notice.Loss,
      told Notice.loss? st'.books.notices = told Notice.loss? st.books.notices ++ losses ∧
        losses.Perm (es.flatMap fun e =>
          (e.run.reports.filter (·.crashed)).map (TaskReport.loss e.run.window.index)) := by
  induction h with
  | nil st => exact ⟨[], (List.append_nil _).symm, .refl _⟩
  | @cons st st' o os es _ ih =>
    obtain ⟨later, htold, hlater⟩ := ih
    obtain ⟨now, hnow, hfirst⟩ := loss_runWindow s o.around (st.wait o.wait)
    refine ⟨now ++ later, ?_, ?_⟩
    · rw [htold, hnow, List.append_assoc]
      rfl
    · rw [List.flatMap_cons]
      simp only [runWindow_reports, runWindow_window]
      exact hfirst.append hlater

/-- **What is reported lost, and what is**: every history reports each task that crashed once, with the
number of events carried into it, and reports no other task. A task that does not crash loses nothing.
Of one that does, everything that it did not hand over is lost, its new events too; so the report falls
short by the new events and is over by those handed over, and is right where the build crashed. -/
theorem record_losses (s : Streamer) (population : Population) (entropy : Nat)
    {os : List Occasion} {es : List Episode} {st : StreamState}
    (h : s.record os (s.start population entropy) = .ok (es, st)) :
    (told Notice.loss? st.books.notices).Perm (es.flatMap fun e =>
        (e.run.reports.filter (·.crashed)).map (TaskReport.loss e.run.window.index)) ∧
      ∀ e ∈ es, ∀ r ∈ e.run.reports, e.Losing s r := by
  have hrecorded := recorded_of_record h
  constructor
  · obtain ⟨losses, htold, hlosses⟩ := hrecorded.told_losses
    rw [htold]
    exact hlosses
  · exact hrecorded.forall_episode (start_sound s population entropy)
      fun around st _ => runWindow_losing s around st

theorem record_losses_daily : ∃ es st,
    daily.record Occasion.twoDays (daily.start .single 0) = .ok (es, st) ∧ es.length = 2 ∧
      (told Notice.loss? st.books.notices).Perm (es.flatMap fun e =>
          (e.run.reports.filter (·.crashed)).map (TaskReport.loss e.run.window.index)) ∧
        ∀ e ∈ es, ∀ r ∈ e.run.reports, e.Losing daily r := by
  obtain ⟨es, st, h, -⟩ := daily_record
  exact ⟨es, st, h, (recorded_of_record h).length_eq, record_losses daily .single 0 h⟩

end Streamer

/-! ## Losses overstated -/

namespace Task

variable {t : Task} {p : Planner} {pace : Pace} {around : Surroundings} {w : Window} {start : Nat}
  {kept : List Event} {r : TaskReport}

/-- A task that runs to its deadline hands nothing over to a sink that always crashes. -/
theorem Performed.attempts_of_crashing (h : t.Performed pace around w start kept r)
    (hsink : ∀ b, (around.sink.crash? b).isSome) {run : Run} (hrun : r.run? = some run)
    (hbroken : run.broken = none) : run.attempts = [] := by
  cases h with
  | paced _ _ _ _ hpace =>
    cases hrun
    rw [hpace] at hbroken
    have hbatches := pace_batches_of_crashing hsink hbroken
    rw [← hpace] at hbatches
    rw [← List.map_eq_nil_iff (f := (·.batch)), Run.batch_attempts, hbatches]
  | failed _ _ _ => cases hrun
  | crashed _ _ => cases hrun

/-- A task that broke off handed over at least one event. -/
theorem Performed.handed_pos (h : t.Performed pace around w start kept r) (hbroke : r.brokeOff) :
    0 < (r.attempts.flatMap (·.batch.events)).length := by
  cases h with
  | @paced drafts tally users run _ _ _ _ hrun =>
    have hsome : run.broken.isSome := hbroke
    rw [hrun] at hsome
    have hne := pace_batches_ne_nil hsome
    rw [← hrun, ← Run.batch_attempts] at hne
    obtain ⟨a, ha⟩ := List.exists_mem_of_ne_nil _ fun hnil => hne (List.map_eq_nil_iff.2 hnil)
    have hevents := List.length_pos_iff.2 ((paced_of_run hrun).nonempty a ha)
    have hle := (sublist_flatMap_of_mem (fun a : Attempt => a.batch.events) ha).length_le
    exact Nat.lt_of_lt_of_le hevents hle
  | failed _ _ _ => cases hbroke
  | crashed _ _ => cases hbroke

end Task

namespace Streamer

variable {s : Streamer} {around : Surroundings} {st : StreamState} {origin : Instant}

/-- **Losses overstated**: of a window without new events that begins with events waiting, a task
whose sink crashes is reported to lose more than it does. -/
theorem runWindow_overstates (h : st.Sound) (hp : (s.opened around st).population.Distinct)
    (hon : around.OnTime origin)
    (hlast : (s.opening around st).finish.millis + s.pace.grace < 0xFFFFFFFFFFFFFFFF)
    (hdue : st.Due origin) (hwaits : st.backlog.entries ≠ [])
    (hsteady : around.generator.Steady)
    (hsilent : ∀ user start source, (around.generator user start source).events = [])
    (hsink : ∀ b, (around.sink.crash? b).isSome) :
    ∃ r ∈ (s.runWindow around st).reports, r.crashed ∧
      r.stranded.length < (r.loss (s.runWindow around st).window.index).events := by
  obtain ⟨c, hc⟩ := List.exists_mem_of_ne_nil _ hwaits
  obtain ⟨t, ht, i, hi, -, hcarried⟩ := exists_task_of_entry h hp hc
  have hne : i.carried ≠ [] := hcarried ▸ h.backlog.nonempty c hc
  have hperformed := performed s around st t
  obtain ⟨run, hrun⟩ : ∃ run, (s.reportOf around st t).run? = some run :=
    t.exists_run _ _ _ _ hsteady
  -- A run to the deadline would hand over what is carried in, and this sink takes nothing.
  have hbroke : (s.reportOf around st t).brokeOff := by
    unfold TaskReport.brokeOff
    rw [hrun]
    by_contra hwhole
    have hbroken : run.broken = none := by simpa using hwhole
    obtain ⟨-, a, ha, -⟩ := first_tick_of_task h hp hon hlast hdue ht hrun hbroken hi hne
    rw [hperformed.attempts_of_crashing hsink hrun hbroken] at ha
    cases ha
  have hcrashed := TaskReport.crashed_of_brokeOff hbroke
  have hloses := reportOf_loses s around st t
  rw [Task.kept_of_silent hsilent] at hloses
  have hevents := (hloses.reported hcrashed (s.runWindow around st).window.index).events
  have hhanded := hperformed.handed_pos hbroke
  refine ⟨s.reportOf around st t, ?_, hcrashed, ?_⟩
  · rw [runWindow_reports]
    exact List.mem_map_of_mem ht
  · rw [Multiset.coe_card, List.length_nil] at hevents
    omega

end Streamer

/-! ## A stream that ticks once a day -/

/-- Everyone emits one event on the evening of the first day. -/
def Surroundings.evening : Surroundings where
  generator user _ source :=
    { events := [{ type := "evening", time := Instant.zero.plus 80000000 }], user, source }
  sink := .accepting
  clock := .startingAt .zero

/-- Nobody emits anything, and every delivery crashes. -/
def Surroundings.stricken : Surroundings where
  generator user _ source := { events := [], user, source }
  sink := { crash? := fun _ => some (.collaborator "strike") }
  clock := .startingAt .zero

/-- Windows of a day without grace and with ticks further apart than a day. -/
def Settings.overnight : Settings :=
  { Settings.byDay with grace := .ofMillis 0, poll := .ofMillis 90000000 }

/-- The stream with these settings. -/
def Streamer.overnight : Streamer :=
  { Streamer.byDay with settings := .overnight, interval := ⟨90000000, by decide⟩ }

namespace Streamer

theorem evening_steady : Surroundings.evening.generator.Steady := fun _ _ _ => rfl

theorem overnight_ofSettings : ofSettings .overnight = .ok overnight := rfl

theorem overnight_opening : overnight.opening .evening ((overnight.start .single 0).wait 0) =
    .ofLength ⟨0⟩ .zero 86400000 := by
  rw [opening_of_first rfl]
  rfl

/-- In the first window tasks run to their deadlines and hand nothing over. -/
theorem overnight_reportOf (t : Task) :
    (overnight.reportOf .evening ((overnight.start .single 0).wait 0) t).attempts = [] ∧
      (overnight.reportOf .evening ((overnight.start .single 0).wait 0) t).crashed = false := by
  have hperformed := performed overnight .evening ((overnight.start .single 0).wait 0) t
  obtain ⟨run, hrun⟩ : ∃ run,
      (overnight.reportOf .evening ((overnight.start .single 0).wait 0) t).run? = some run :=
    t.exists_run _ _ _ _ evening_steady
  generalize overnight.reportOf .evening ((overnight.start .single 0).wait 0) t = r
    at hperformed hrun
  cases hperformed with
  | @paced drafts tally users _ _ _ _ _ hpace =>
    cases hrun
    have hidle : run.batches = #[] ∧ run.broken = none := by
      rw [hpace]
      apply pace_idle
      · intro q _ e _ hearly
        exact absurd hearly (Nat.not_lt_zero _)
      · show _ < Instant.zero.plus (0 + restOf overnight.pace.interval.millis)
        rw [overnight_opening]
        decide
    constructor
    · show run.attempts = []
      rw [← List.map_eq_nil_iff (f := (·.batch)), Run.batch_attempts, hidle.1]
    · show run.broken.isSome = false
      rw [hidle.2]
      rfl
  | failed _ _ _ => cases hrun
  | crashed _ _ => cases hrun

/-- The task of the first window keeps the event of the evening. -/
theorem overnight_newlyKept :
    overnight.newlyKept .evening ((overnight.start .single 0).wait 0) ≠ [] := by
  have hday : ((overnight.start .single 0).wait 0).day ≠
      some (overnight.opening .evening ((overnight.start .single 0).wait 0)).start.day := by
    simp [start, StreamState.wait]
  have hcounts : ∀ count ∈ overnight.activeCount.values, 1 ≤ count := by decide
  obtain ⟨t, ht, -⟩ : ∃ t ∈ overnight.tasks .evening ((overnight.start .single 0).wait 0),
      t.shard = ⟨0⟩ :=
    exists_task_of_newDay (wait_sound (start_sound overnight .single 0) 0) hday hcounts
      (Nat.le_refl 1) (by decide)
  obtain ⟨hintakes, hgenerates⟩ := share_ne_nil (share_of_task ht)
  rw [opened_backlog] at hgenerates
  have hkept : t.kept overnight.planner Surroundings.evening.generator
      (overnight.opening .evening ((overnight.start .single 0).wait 0)) ≠ [] := by
    apply Task.kept_ne_nil (hgenerates.resolve_right fun hne => hne rfl) hintakes evening_steady
    · rw [overnight_opening]
      exact byDay_plan
    · intro user start source
      refine ⟨_, List.mem_singleton_self _, ?_⟩
      rw [overnight_opening]
      decide
  intro hnil
  exact hkept (List.sublist_nil.1 (hnil ▸ kept_sublist_newlyKept ht))

/-- The event of the evening waits after the first window. -/
theorem overnight_waits :
    (overnight.runWindow .evening ((overnight.start .single 0).wait 0)).state.backlog.entries ≠ [] := by
  have hsound := wait_sound (start_sound overnight .single 0) 0
  have hcalm : ∀ t ∈ overnight.tasks .evening ((overnight.start .single 0).wait 0),
      (overnight.reportOf .evening ((overnight.start .single 0).wait 0) t).crashed = false :=
    fun t _ => (overnight_reportOf t).2
  have hevents := reports_events hsound hcalm
  have hnone : ((overnight.tasks .evening ((overnight.start .single 0).wait 0)).flatMap fun t =>
      (overnight.reportOf .evening ((overnight.start .single 0).wait 0) t).attempts.flatMap
        (·.batch.events)) = [] := by
    rw [List.flatMap_eq_nil_iff]
    intro t _
    rw [(overnight_reportOf t).1]
    rfl
  rw [coe_attempts_events, hnone] at hevents
  intro hnil
  unfold Backlog.events at hevents
  have hcard := congrArg Multiset.card hevents
  rw [hnil, Multiset.card_add, Multiset.card_add] at hcard
  simp only [List.flatMap_nil, Multiset.coe_card, List.length_nil] at hcard
  have hnew := List.length_pos_iff.2 overnight_newlyKept
  omega

/-- **A loss that is not one**: an event that waits overnight is handed over in the morning, the
delivery crashes, and the event is reported lost. -/
theorem record_overstatesLoss : ∃ es st e r lost, ofSettings .overnight = .ok overnight ∧
    overnight.record [{ around := .evening }, { around := .stricken }] (overnight.start .single 0) =
      .ok (es, st) ∧
    e ∈ es ∧ r ∈ e.run.reports ∧ r.crashed ∧
      r.loss e.run.window.index ∈ told Notice.loss? st.books.notices ∧
      r.Loses (e.keptOf overnight r) lost ∧
      Multiset.card lost < (r.loss e.run.window.index).events := by
  have hstart := start_sound overnight .single 0
  obtain ⟨es, st, h, hsize⟩ : ∃ es st, overnight.record
      [{ around := .evening }, { around := .stricken }] (overnight.start .single 0) = .ok (es, st) ∧
        st.population.size ≤ 1 := record_ok _ _ hstart (by decide)
  have hp := Population.distinct_of_size_le_one hsize
  have hrecorded := recorded_of_record h
  obtain ⟨losses, htold, hlosses⟩ := hrecorded.told_losses
  have hevening : Surroundings.evening.OnTime .zero := ⟨rfl, fun _ => rfl⟩
  have hstricken : Surroundings.stricken.OnTime .zero := ⟨rfl, fun _ => rfl⟩
  have hwithin : (overnight.start .single 0).Within .zero overnight.settings.window.wholeMillis 0 :=
    ⟨Nat.le_refl 0, fun _ hw => by cases hw⟩
  have htime : ∀ o ∈ [({ around := .evening } : Occasion), { around := .stricken }],
      o.around.OnTime .zero ∧ ∀ b, o.around.sink.latency b = 0 := by
    refine List.forall_mem_cons.2 ⟨⟨hevening, fun _ => rfl⟩, List.forall_mem_cons.2 ⟨?_, by simp⟩⟩
    exact ⟨hstricken, fun _ => rfl⟩
  have hbound := hrecorded.finish_le (Nat.le_refl _) hwithin htime
  cases hrecorded with
  | cons hrest =>
    have hp₀ := hrest.distinct_opened hstart hp
    cases hrest with
    | cons hend =>
      have hafter : (overnight.runWindow .evening ((overnight.start .single 0).wait 0)).state.Sound :=
        runWindow_sound (wait_sound hstart 0)
      have hp₁ : (overnight.opened .stricken ((overnight.runWindow .evening
          ((overnight.start .single 0).wait 0)).state.wait 0)).population.Distinct :=
        hend.distinct_opened hafter hp
      obtain ⟨⟨-, hle₀⟩, hlater⟩ := List.forall_mem_cons.1 hbound
      have hle₁ := (hlater _ List.mem_cons_self).2
      simp only [runWindow_window] at hle₀ hle₁
      have hdue := runWindow_due (wait_sound hstart 0) hp₀ hevening (Nat.lt_of_le_of_lt hle₀ (by decide))
        fun _ hx => absurd hx List.not_mem_nil
      have hlast₁ := Nat.lt_of_le_of_lt hle₁ (show _ < 0xFFFFFFFFFFFFFFFF by decide)
      obtain ⟨r, hr, hcrashed, hover⟩ := runWindow_overstates (wait_sound hafter 0) hp₁ hstricken
        hlast₁ (wait_due hdue 0) overnight_waits (fun _ _ _ => rfl) (fun _ _ _ => rfl) fun _ => rfl
      refine ⟨_, _, _, r, r.stranded, overnight_ofSettings, h,
        List.mem_cons_of_mem _ List.mem_cons_self, hr, hcrashed, ?_, ?_, ?_⟩
      · rw [htold]
        apply List.mem_append_right
        rw [hlosses.mem_iff, List.mem_flatMap]
        refine ⟨_, List.mem_cons_of_mem _ List.mem_cons_self, List.mem_map_of_mem ?_⟩
        exact List.mem_filter.2 ⟨hr, hcrashed⟩
      · exact (runWindow_losing overnight _ _ r hr).loses
      · simpa only [Multiset.coe_card] using hover

end Streamer

end ShopTraffic
