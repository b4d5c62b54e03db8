import Mathlib
import ShopTraffic.Proofs.Answers

/-!
# The accounts of a window

Each task of a window ends in one of four ways, and the summary of the window books each of them
differently: a task that runs to its deadline with what its build counted, a failed build with what it
hands back, a crash with nothing. The sums come out even for every mixture of these, and in whatever
order the tasks are joined.

* `TaskReport.counted`, `TaskReport.handedBack` — what a summary and the backlog take from a task;
  `carried_split` — where the events are that a task was given;
* `foldl_joinSummary`, `count_joinBacklog` — the sums over the tasks of a window;
* `Episode.Accounted` — the accounts of a window; `record_accounted` — every window of every history.
-/

set_option autoImplicit false

namespace ShopTraffic

open Chance

/-! ## One task -/

theorem totalOf_eq_sum {α : Type} (count : α → Nat) (xs : List α) :
    totalOf count xs = (xs.map count).sum := by
  induction xs with
  | nil => rfl
  | cons x xs ih => rw [totalOf_cons, List.map_cons, List.sum_cons, ih]

/-- What a summary counts of a task: the counts of its build if it ran to its deadline. -/
def TaskReport.counted (r : TaskReport) : Tally := if r.succeeded then r.tally?.getD {} else {}

/-- How many carried events a failed build hands back. -/
def TaskReport.handedBack (r : TaskReport) : Nat :=
  match r.finish with
  | .buildFailed _ returned => carriedCount returned
  | _ => 0

/-- A failed build hands back all that was carried in. -/
theorem carriedCount_returnedOf {users : List User} {intakes : List Intake}
    (h : List.Forall₂ User.Resumes users (intakes.map (·.user))) :
    carriedCount (returnedOf users intakes) = totalOf (·.carried.length) intakes := by
  have hheld := heldFor_returnedOf (fun _ => true) h
  rw [heldFor_true, List.filter_true] at hheld
  have hlength := congrArg List.length hheld
  rwa [length_flatMap_eq_totalOf, length_flatMap_eq_totalOf] at hlength

namespace Task

variable {t : Task} {p : Planner} {generator : Generator} {w : Window}

/-- A build counts all that was carried in. -/
theorem carried_of_built {queues : List Queue} {tally : Tally} {users : List User}
    (h : t.prepare p generator w = (.built queues tally, users)) : tally.carried = t.carried := by
  unfold prepare at h
  split at h
  · unfold build at h
    simp only at h
    split at h
    · cases h
    · cases h
    · rename_i hstop
      cases h
      have hdrafts := generateAll_drafts p generator w t.intakes t.source hstop
      have hlengths : (generateAll p generator w t.intakes t.source).drafts.map (·.carried.length) =
          t.intakes.map (·.carried.length) :=
        map_eq_of_forall₂ (fun d i hof => congrArg List.length hof.carried) hdrafts
      calc (tallyOf w (generateAll p generator w t.intakes t.source).drafts).carried
          = ((generateAll p generator w t.intakes t.source).drafts.map (·.carried.length)).sum :=
            totalOf_eq_sum _ _
        _ = t.carried := by rw [hlengths, Task.carried, totalOf_eq_sum]
  · cases h
    rfl

/-- **Where the events are that a task was given**: counted, handed back or gone with a crash. -/
theorem carried_split (t : Task) (p : Planner) (pace : Pace) (around : Surroundings) (w : Window)
    (elapsed : Nat) :
    (t.perform p pace around w elapsed).counted.carried +
        (t.perform p pace around w elapsed).handedBack +
        (if (t.perform p pace around w elapsed).crashed then t.carried else 0) = t.carried := by
  have hprepared := t.prepare_prepared p around.generator w
  unfold perform
  cases hcases : t.prepare p around.generator w with
  | mk result users =>
    rw [hcases] at hprepared
    cases result with
    | built queues tally =>
      have hcarried : tally.carried = t.carried := carried_of_built hcases
      have hended : ∀ broken : Option Breakdown,
          (if broken.isNone then tally else {}).carried + 0 +
            (if broken.isSome then t.carried else 0) = t.carried := by
        intro broken
        cases broken with
        | none => exact hcarried
        | some breakdown => simp
      exact hended _
    | failed cause returned =>
      cases hprepared with
      | failed _ _ husers =>
        show 0 + carriedCount (returnedOf users t.intakes) + 0 = t.carried
        rw [carriedCount_returnedOf husers, Nat.zero_add]
        rfl
    | crashed crash =>
      show 0 + 0 + t.carried = t.carried
      rw [Nat.add_zero, Nat.zero_add]

end Task

/-! ## Sums over tasks -/

theorem Backlog.count_eq_length_events (b : Backlog) : b.count = b.events.length :=
  (length_flatMap_eq_totalOf _ _).symm

namespace Streamer

/-- What joining tasks makes of a summary. -/
theorem foldl_joinSummary (joined : List TaskReport) (summary : WindowSummary) :
    joined.foldl joinSummary summary =
      { summary with
        users := summary.users + totalOf (·.counted.users) joined
        generated := summary.generated + totalOf (·.counted.generated) joined
        carriedIn := summary.carriedIn + totalOf (·.counted.carried) joined
        failedShards := summary.failedShards + (joined.filter (!·.succeeded)).length } := by
  induction joined generalizing summary with
  | nil => rfl
  | cons r rest ih =>
    rw [List.foldl_cons, ih]
    unfold joinSummary TaskReport.counted
    simp only [totalOf_cons, List.filter_cons]
    cases r.succeeded with
    | true => simp [Nat.add_assoc]
    | false => simp [Nat.add_assoc, Nat.add_comm]

/-- The backlog holds what the joined tasks return. -/
theorem count_joinBacklog (joined : List TaskReport) :
    (joinBacklog joined).count = totalOf (fun r => carriedCount r.returned) joined := by
  have hheld := Backlog.coe_heldFor_absorb (fun _ => true) {} (joined.flatMap (·.returned))
  rw [← joinBacklog_eq, heldFor_true, heldFor_true, heldFor_true, List.flatMap_assoc] at hheld
  have hcard := congrArg Multiset.card hheld
  rw [Multiset.card_add, Multiset.coe_card, Multiset.coe_card, Multiset.coe_card,
    length_flatMap_eq_totalOf, length_flatMap_eq_totalOf, length_flatMap_eq_totalOf] at hcard
  simp only [length_flatMap_eq_totalOf] at hcard
  exact hcard.trans (Nat.zero_add _)

end Streamer

/-! ## One window -/

/-- How many events are handed over in an episode. -/
def Episode.handed (e : Episode) : Nat := (e.sent.flatMap (·.batch.events)).length

/-- The accounts of a window with the given summary: its tasks ran to their deadlines or failed, what
waited before was counted, handed back or given to tasks that crashed, and without a crash what waited
and what is new was handed over or waits again. -/
structure Episode.Accounted (e : Episode) (summary : WindowSummary) : Prop where
  tasks : summary.tasks = (e.run.reports.filter (·.succeeded)).length + summary.failedShards
  carried : e.before.backlog.count =
    summary.carriedIn + totalOf (·.handedBack) e.run.reports +
      totalOf (·.task.carried) (e.run.reports.filter (·.crashed))
  events : e.calm →
    e.before.backlog.count + summary.generated = e.handed + summary.carriedOut

namespace Streamer

variable {s : Streamer} {around : Surroundings} {st st' : StreamState}

/-- The events that wait before a window are those that its tasks are given. -/
theorem count_backlog (h : st.Sound) : st.backlog.count = totalOf (·.carried) (s.tasks around st) := by
  have hcarried := congrArg Multiset.card (@coe_carried_events s around st h)
  rw [Multiset.coe_card, Multiset.coe_card, length_flatMap_eq_totalOf] at hcarried
  simp only [length_flatMap_eq_totalOf] at hcarried
  rw [Backlog.count_eq_length_events, ← hcarried]
  rfl

/-- The carried events of a window are counted, handed back, or gone with a crash. -/
theorem count_backlog_split (h : st.Sound) : st.backlog.count =
    totalOf (·.counted.carried) (s.reports around st) +
      totalOf (·.handedBack) (s.reports around st) +
      totalOf (·.task.carried) ((s.reports around st).filter (·.crashed)) := by
  have htask : ∀ t, (s.reportOf around st t).counted.carried + (s.reportOf around st t).handedBack +
      (if (s.reportOf around st t).crashed then (s.reportOf around st t).task.carried else 0) =
        t.carried := by
    intro t
    rw [(performed s around st t).task_eq]
    exact t.carried_split s.planner s.pace around (s.opening around st) (s.opened around st).elapsed
  rw [count_backlog h]
  unfold reports
  induction s.tasks around st with
  | nil => rfl
  | cons t ts ih =>
    have hfirst := htask t
    rw [List.map_cons, List.filter_cons, totalOf_cons, totalOf_cons, totalOf_cons, ih]
    split
    · rename_i hcrashed
      rw [if_pos hcrashed] at hfirst
      rw [totalOf_cons]
      omega
    · rename_i hcalm
      rw [if_neg hcalm] at hfirst
      omega

/-- Without a crash a summary counts all new events. -/
theorem counted_generated
    (hcalm : ∀ t ∈ s.tasks around st, (s.reportOf around st t).crashed = false) :
    totalOf (·.counted.generated) (s.reports around st) = (s.newlyKept around st).length := by
  rw [← reports_generated hcalm]
  unfold reports
  generalize s.tasks around st = ts at hcalm ⊢
  induction ts with
  | nil => rfl
  | cons t ts ih =>
    obtain ⟨ht, hts⟩ := List.forall_mem_cons.1 hcalm
    rw [List.map_cons, List.filterMap_cons, totalOf_cons, ih hts]
    unfold TaskReport.counted TaskReport.succeeded TaskReport.run? TaskReport.tally?
    unfold TaskReport.crashed at ht
    cases hfinish : (s.reportOf around st t).finish with
    | paced tally run =>
      rw [hfinish] at ht
      simp only [Option.any_some, totalOf_cons]
      rw [if_pos (by simpa using ht)]
      rfl
    | buildFailed cause returned => exact Nat.zero_add _
    | buildCrashed crash => exact Nat.zero_add _

/-- The batches of an episode are those of its tasks. -/
theorem batches_sent (s : Streamer) (around : Surroundings) (st : StreamState) :
    (Episode.sent ⟨around, st, s.runWindow around st⟩).map (·.batch) =
      (s.attempts around st).map (·.batch) := by
  have hbatches := runWindow_batches s around st
  unfold Books.batches at hbatches
  unfold Episode.sent
  rw [List.map_drop, hbatches]
  exact List.drop_left' (by rw [List.length_map, Array.length_toList])

theorem handed_runWindow (s : Streamer) (around : Surroundings) (st : StreamState) :
    Episode.handed ⟨around, st, s.runWindow around st⟩ =
      ((s.attempts around st).flatMap (·.batch.events)).length := by
  have hsent := batches_sent s around st
  have hevents := congrArg (List.flatMap (·.events)) hsent
  rw [List.flatMap_map, List.flatMap_map] at hevents
  exact congrArg List.length hevents

/-- The summary of a window, whatever the order in which its tasks are joined. -/
theorem joinedAs_summary (s : Streamer) (around : Surroundings) (st : StreamState)
    (joined : List TaskReport) : (s.joinedAs around st joined).summary =
      { index := (s.opening around st).index
        population := (s.dispatched around st).active.length
        tasks := (s.reports around st).length
        users := totalOf (·.counted.users) joined
        generated := totalOf (·.counted.generated) joined
        carriedIn := totalOf (·.counted.carried) joined
        carriedOut := (joinBacklog joined).count
        failedShards := (joined.filter (!·.succeeded)).length } := by
  have hsummary : (s.joinedAs around st joined).summary =
      { joined.foldl joinSummary
          { index := (s.opening around st).index
            population := (s.dispatched around st).active.length
            tasks := (s.reports around st).length } with
        carriedOut := (joinBacklog joined).count } := rfl
  rw [hsummary, foldl_joinSummary]
  simp only [Nat.zero_add]

/-- **The accounts of a window**, whatever way its tasks end and in whatever order they are joined. -/
theorem joinedAs_accounted (s : Streamer) (around : Surroundings) (h : st.Sound)
    {joined : List TaskReport} (hjoined : joined.Perm (s.reports around st)) :
    Episode.Accounted ⟨around, st, s.runWindow around st⟩ (s.joinedAs around st joined).summary := by
  rw [joinedAs_summary]
  constructor
  · have hlength := List.length_eq_length_filter_add (l := s.reports around st) (·.succeeded)
    simp only [runWindow_reports]
    rw [(hjoined.filter _).length_eq]
    exact hlength
  · simp only [runWindow_reports]
    rw [totalOf_perm _ hjoined]
    exact count_backlog_split h
  · intro hcalm
    have hcalm := (episode_calm s around st).1 hcalm
    have hevents := congrArg Multiset.card (reports_events h hcalm)
    simp only [Multiset.card_add, Multiset.coe_card] at hevents
    have hleft : (joinBacklog joined).count = (s.runWindow around st).state.backlog.events.length := by
      rw [← Backlog.count_eq_length_events, runWindow_backlog, count_joinBacklog, count_joinBacklog]
      exact totalOf_perm _ (hjoined.trans (List.mergeSort_perm _ _).symm)
    dsimp only
    rw [totalOf_perm _ hjoined, counted_generated hcalm, handed_runWindow, hleft,
      Backlog.count_eq_length_events]
    exact hevents.symm

/-- **The accounts of every window of a history come out even**, for every mixture of tasks that run
to their deadlines, builds that fail and crashes, and for every order in which tasks are joined. -/
theorem record_accounted (s : Streamer) (population : Population) (entropy : Nat)
    {os : List Occasion} {es : List Episode} {st : StreamState}
    (h : s.record os (s.start population entropy) = .ok (es, st)) :
    ∀ e ∈ es, e.Accounted e.run.summary ∧
      ∀ joined : List TaskReport, joined.Perm e.run.reports →
        e.Accounted (s.joinedAs e.around e.before joined).summary := by
  refine (recorded_of_record h).forall_episode (start_sound s population entropy) ?_
  intro around st hst
  constructor
  · have hwindow := joinedAs_accounted s around hst
      (List.mergeSort_perm (s.reports around st) fun a b => a.elapsed ≤ b.elapsed)
    rwa [← joinOrder, ← runWindow_eq_joinedAs] at hwindow
  · intro joined hjoined
    rw [runWindow_reports] at hjoined
    exact joinedAs_accounted s around hst hjoined

theorem record_accounted_daily : ∃ es st,
    daily.record Occasion.twoDays (daily.start .single 0) = .ok (es, st) ∧
      (∀ e ∈ es, e.calm) ∧ ∀ e ∈ es, e.Accounted e.run.summary ∧
        e.before.backlog.count + e.run.summary.generated = e.handed + e.run.summary.carriedOut := by
  obtain ⟨es, st, h, hsize⟩ := daily_record
  have hcalm := daily_calm h hsize
  refine ⟨es, st, h, hcalm, fun e he => ?_⟩
  have haccounted := (record_accounted daily .single 0 h e he).1
  exact ⟨haccounted, haccounted.events (hcalm e he)⟩

end Streamer

end ShopTraffic
