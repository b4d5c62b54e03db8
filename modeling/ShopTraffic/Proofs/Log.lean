import Mathlib
import ShopTraffic.Proofs.Answers

/-!
# What a window writes down

A window reports what it does from the opening to the summary. Most of that only informs; three kinds
of notices make statements that can be held against what happened: that so many deliveries are
numbered, that a window was restarted, and that a task took events with it.

* `Notice.progress?`, `Notice.restart?`, `Notice.loss?` — what these notices say; `told` — what some
  notices say of one kind;
* `told_enterAll` — deliveries; `told_runWindow` — one window, whatever is asked of its notices;
* `progress_runWindow`, `restart_runWindow`, `loss_runWindow` — one window, kind by kind.
-/

set_option autoImplicit false

namespace ShopTraffic

/-! ## Notices -/

namespace Notice

/-- The number of deliveries that a notice of progress tells. -/
def progress? : Notice → Option Nat
  | .progress deliveries => some deliveries
  | _ => none

/-- The window that a notice says was restarted, and how many milliseconds behind. -/
def restart? : Notice → Option (WindowIndex × Nat)
  | .fellBehind window millis => some (window, millis)
  | _ => none

/-- A task that is reported lost, with the events reported lost with it. -/
structure Loss where
  window : WindowIndex
  shard : ShardId
  users : Nat
  events : Nat
  deriving DecidableEq, Repr

/-- The loss that a notice reports. -/
def loss? : Notice → Option Loss
  | .buildCrashed window shard users lost | .shardLost window shard users lost =>
    some ⟨window, shard, users, lost⟩
  | _ => none

/-- Notices that say nothing of progress, restarts and losses. -/
def routine : Notice → Bool
  | .progress .. | .fellBehind .. | .buildCrashed .. | .shardLost .. => false
  | _ => true

theorem progress?_of_routine (n : Notice) (h : n.routine) : n.progress? = none := by
  cases n <;> first | rfl | cases h

theorem restart?_of_routine (n : Notice) (h : n.routine) : n.restart? = none := by
  cases n <;> first | rfl | cases h

theorem loss?_of_routine (n : Notice) (h : n.routine) : n.loss? = none := by
  cases n <;> first | rfl | cases h

end Notice

/-- A sink tells of a batch that it was handed over, or nothing. -/
theorem Sink.notices_routine (sink : Sink) (batch : Batch) : ∀ n ∈ sink.notices batch, n.routine := by
  intro n hn
  unfold Sink.notices at hn
  split at hn
  · rw [List.mem_singleton.1 hn]
    rfl
  · cases hn

/-- What notices say of one kind, in order. -/
def told {β : Type} (f : Notice → Option β) (ns : Array Notice) : List β := ns.toList.filterMap f

theorem told_append {β : Type} (f : Notice → Option β) (ns : Array Notice) (ms : List Notice) :
    told f (ns ++ ms) = told f ns ++ ms.filterMap f := by
  unfold told
  rw [Array.toList_appendList, List.filterMap_append]

theorem progress?_progressNotice (every number : Nat) :
    (progressNotice every number).filterMap Notice.progress? =
      if number % max every 1 = 0 then [number] else [] := by
  unfold progressNotice
  split <;> rfl

/-- Of numbers taken one after the other, the multiples are told. -/
theorem progress?_progressNotices (every : Nat) (numbers : List Nat) :
    (numbers.flatMap (progressNotice every)).filterMap Notice.progress? =
      numbers.filter (· % max every 1 = 0) := by
  induction numbers with
  | nil => rfl
  | cons number rest ih =>
    rw [List.flatMap_cons, List.filterMap_append, ih, progress?_progressNotice, List.filter_cons]
    by_cases h : number % max every 1 = 0
    · rw [if_pos h, if_pos (decide_eq_true h), List.singleton_append]
    · rw [if_neg h, if_neg (by simpa using h), List.nil_append]

/-! ## One kind of notices -/

section Told

variable {β : Type} {f : Notice → Option β}

theorem filterMap_routine (hf : ∀ n, n.routine → f n = none) {ns : List Notice}
    (h : ∀ n ∈ ns, n.routine) : ns.filterMap f = [] :=
  List.filterMap_eq_nil_iff.2 fun n hn => hf n (h n hn)

theorem filterMap_eq_nil_of_progress (hf : ∀ number, f (.progress number) = none) (every : Nat)
    (numbers : List Nat) : (numbers.flatMap (progressNotice every)).filterMap f = [] := by
  refine List.filterMap_eq_nil_iff.2 fun n hn => ?_
  obtain ⟨number, -, hn⟩ := List.mem_flatMap.1 hn
  unfold progressNotice at hn
  split at hn
  · rw [List.mem_singleton.1 hn]
    exact hf number
  · cases hn

/-- Nothing but its number is told of a delivery. -/
theorem told_enter (hf : ∀ n, n.routine → f n = none) (sink : Sink) (every : Nat) (b : Books)
    (a : ShardAttempt) :
    told f (b.enter sink every a).notices =
      told f b.notices ++ (progressNotice every (b.issued + 1)).filterMap f := by
  have houtcome : ∀ answer, ∀ n ∈ Books.outcomeNotice a.shard a.attempt.batch answer, n.routine := by
    intro answer n hn
    unfold Books.outcomeNotice at hn
    split at hn
    · cases hn
    · split at hn
      · rw [List.mem_singleton.1 hn]
        rfl
      · rw [List.mem_singleton.1 hn]
        rfl
  have hrest : ∀ answer, (if a.attempt.answered then sink.notices a.attempt.batch ++
      Books.outcomeNotice a.shard a.attempt.batch answer else []).filterMap f = [] := by
    intro answer
    apply filterMap_routine hf
    intro n hn
    split at hn
    · exact (List.mem_append.1 hn).elim (sink.notices_routine _ n) (houtcome answer n)
    · cases hn
  have hnotices : (b.enter sink every a).notices = b.notices ++ progressNotice every (b.issued + 1) ++
      if a.attempt.answered then sink.notices a.attempt.batch ++ Books.outcomeNotice a.shard
        a.attempt.batch (sink.answer (b.issued + 1) a.attempt.batch) else [] := by
    unfold Books.enter
    simp only
    split <;> rfl
  rw [hnotices, told_append, told_append, hrest, List.append_nil]

theorem told_enterAll (hf : ∀ n, n.routine → f n = none) (sink : Sink) (every : Nat) (b : Books)
    (as : List ShardAttempt) :
    told f (b.enterAll sink every as).notices =
      told f b.notices ++
        ((List.range' (b.issued + 1) as.length).flatMap (progressNotice every)).filterMap f := by
  unfold Books.enterAll
  induction as generalizing b with
  | nil => exact (List.append_nil _).symm
  | cons a as ih =>
    rw [List.foldl_cons, ih, told_enter hf, Books.issued_enter, List.length_cons, List.range'_succ,
      List.flatMap_cons, List.filterMap_append, List.append_assoc]

theorem told_bookRuns (hf : ∀ n, n.routine → f n = none) (reports : List TaskReport) (sink : Sink)
    (every : Nat) (b : Books) :
    told f (bookRuns reports sink every b).notices =
      told f b.notices ++ ((List.range' (b.issued + 1) (inOrder reports).length).flatMap
        (progressNotice every)).filterMap f := by
  have hdeadline : ∀ ended : List (ShardId × Run),
      (ended.flatMap fun x => x.2.deadlineNotice x.1).filterMap f = [] := by
    intro ended
    apply filterMap_routine hf
    intro n hn
    obtain ⟨x, -, hn⟩ := List.mem_flatMap.1 hn
    unfold Run.deadlineNotice at hn
    split at hn
    · cases hn
    · rw [List.mem_singleton.1 hn]
      rfl
  unfold bookRuns
  simp only
  rw [told_append, told_enterAll hf, hdeadline, List.append_nil]

namespace Streamer

theorem told_joinNotices (hf : ∀ n, n.routine → f n = none) (w : WindowIndex)
    (joined : List TaskReport) (b : Backlog) :
    (joinNotices w joined b).filterMap f = joined.flatMap fun r => (r.joinNotices w).filterMap f := by
  induction joined generalizing b with
  | nil => rfl
  | cons r rest ih =>
    have hclashes : ((b.clashes r.returned).map Notice.carriedTwice).filterMap f = [] := by
      apply filterMap_routine hf
      intro n hn
      obtain ⟨id, -, rfl⟩ := List.mem_map.1 hn
      rfl
    unfold joinNotices
    rw [List.filterMap_append, List.filterMap_append, hclashes, List.append_nil, ih,
      List.flatMap_cons]

theorem told_close (hf : ∀ n, n.routine → f n = none) (s : Streamer) (around : Surroundings)
    (w : Window) (st : StreamState) (reports joined : List TaskReport) :
    told f (s.close around w st reports joined).state.books.notices =
      told f st.books.notices ++
        ((List.range' (st.books.issued + 1) (inOrder reports).length).flatMap
          (progressNotice s.settings.progressEvery)).filterMap f ++
        (joined.flatMap fun r => (r.joinNotices w.index).filterMap f) ++
        reports.flatMap fun r => (r.lossNotices w.index).filterMap f := by
  have hbuilds : (reports.flatMap (·.buildNotices w.index)).filterMap f = [] := by
    apply filterMap_routine hf
    intro n hn
    obtain ⟨r, -, hn⟩ := List.mem_flatMap.1 hn
    unfold TaskReport.buildNotices at hn
    split at hn
    · split at hn
      · rw [List.mem_singleton.1 hn]
        rfl
      · cases hn
    · cases hn
  have hlosses : (reports.flatMap (·.lossNotices w.index)).filterMap f =
      reports.flatMap fun r => (r.lossNotices w.index).filterMap f := List.filterMap_flatMap
  unfold close StreamState.notify
  simp only
  rw [told_append, told_bookRuns hf, List.filterMap_append, List.filterMap_append,
    List.filterMap_append, hbuilds, told_joinNotices hf, hlosses,
    List.filterMap_cons_none (hf _ rfl), List.filterMap_nil, List.append_nil, List.nil_append,
    List.append_assoc (told f _ ++ _)]

variable (s : Streamer) (around : Surroundings) (st : StreamState)

/-- Until a window is open nothing is told but that it was restarted. -/
theorem told_dispatched (hf : ∀ n, n.routine → f n = none) :
    told f (s.dispatched around st).books.notices =
      told f st.books.notices ++
        (s.nextWindow st (around.clock.read st.elapsed)).2.filterMap f := by
  have hday : ∀ (today : Day) (st : StreamState),
      told f (s.beginDay today st).books.notices = told f st.books.notices := by
    intro today st
    unfold beginDay
    split
    · rfl
    · simp only [StreamState.notify]
      rw [told_append, filterMap_routine hf, List.append_nil]
      intro n hn
      rcases List.mem_append.1 hn with hn | hn
      · split at hn
        · rw [List.mem_singleton.1 hn]
          rfl
        · cases hn
      · rw [List.mem_singleton.1 hn]
        rfl
  have hcarried : ((s.shares (s.opened around st)).flatMap fun share =>
      if share.2.2 then [] else
        [Notice.carryDispatched (s.opening around st).index share.2.1.length]).filterMap f = [] := by
    apply filterMap_routine hf
    intro n hn
    obtain ⟨share, -, hn⟩ := List.mem_flatMap.1 hn
    split at hn
    · cases hn
    · rw [List.mem_singleton.1 hn]
      rfl
  unfold dispatched
  rw [StreamState.notify, told_append, hcarried, List.append_nil]
  show told f (s.opened around st).books.notices = _
  unfold opened
  rw [hday, StreamState.notify, told_append]

theorem dispatched_issued : (s.dispatched around st).books.issued = st.books.issued :=
  opened_issued s around st

/-- **What a window tells**, whatever is asked of its notices. -/
theorem told_runWindow (hf : ∀ n, n.routine → f n = none) :
    told f (s.runWindow around st).state.books.notices =
      told f st.books.notices ++
        (s.nextWindow st (around.clock.read st.elapsed)).2.filterMap f ++
        ((List.range' (st.books.issued + 1) (s.attempts around st).length).flatMap
          (progressNotice s.settings.progressEvery)).filterMap f ++
        ((joinOrder (s.reports around st)).flatMap fun r =>
          (r.joinNotices (s.opening around st).index).filterMap f) ++
        (s.reports around st).flatMap fun r =>
          (r.lossNotices (s.opening around st).index).filterMap f := by
  rw [runWindow_eq_joinedAs]
  unfold joinedAs attempts
  rw [told_close hf, told_dispatched s around st hf, dispatched_issued, List.length_map]

end Streamer

end Told

/-! ## Progress, restarts and losses -/

namespace TaskReport

variable {β : Type} {f : Notice → Option β}

/-- Where losses are not asked for, joining a task tells nothing. -/
theorem told_joinNotices_eq_nil (hf : ∀ n, n.routine → f n = none)
    (hcrashed : ∀ w shard users lost, f (.buildCrashed w shard users lost) = none)
    (r : TaskReport) (w : WindowIndex) : (r.joinNotices w).filterMap f = [] := by
  unfold joinNotices
  split
  · split
    · exact List.filterMap_cons_none (hf _ rfl)
    · rfl
  · exact List.filterMap_cons_none (hf _ rfl)
  · exact List.filterMap_cons_none (hcrashed _ _ _ _)

theorem told_lossNotices_eq_nil (hlost : ∀ w shard users lost, f (.shardLost w shard users lost) = none)
    (r : TaskReport) (w : WindowIndex) : (r.lossNotices w).filterMap f = [] := by
  unfold lossNotices
  split
  · exact List.filterMap_cons_none (hlost _ _ _ _)
  · rfl

/-- What is reported lost with a task: all that it was given when it started. -/
def loss (w : WindowIndex) (r : TaskReport) : Notice.Loss :=
  ⟨w, r.task.shard, r.task.intakes.length, r.task.carried⟩

/-- A task that crashed is reported lost once, and no other task is. -/
theorem told_losses (r : TaskReport) (w : WindowIndex) :
    (r.joinNotices w).filterMap Notice.loss? ++ (r.lossNotices w).filterMap Notice.loss? =
      if r.crashed then [r.loss w] else [] := by
  unfold joinNotices lossNotices brokeOff run? crashed
  cases r.finish with
  | paced tally run =>
    simp only [Option.any_some]
    split
    · rfl
    · rfl
  | buildFailed cause returned => rfl
  | buildCrashed crash => rfl

/-- In whatever order tasks are joined, those that crashed are reported lost. -/
theorem told_losses_perm {reports joined : List TaskReport} (h : joined.Perm reports)
    (w : WindowIndex) :
    ((joined.flatMap fun r => (r.joinNotices w).filterMap Notice.loss?) ++
        reports.flatMap fun r => (r.lossNotices w).filterMap Notice.loss?).Perm
      ((reports.filter (·.crashed)).map (loss w)) := by
  have hcrashed : (reports.flatMap fun r => if r.crashed then [r.loss w] else []) =
      (reports.filter (·.crashed)).map (loss w) := by
    induction reports generalizing joined with
    | nil => rfl
    | cons r rest ih =>
      rw [List.flatMap_cons, List.filter_cons, ih (.refl _)]
      split
      · rfl
      · rfl
  have hboth := List.flatMap_append_perm reports
    (fun r => (r.joinNotices w).filterMap Notice.loss?)
    (fun r => (r.lossNotices w).filterMap Notice.loss?)
  simp only [told_losses, hcrashed] at hboth
  exact ((h.flatMap_right _).append_right _).trans hboth

end TaskReport

namespace Streamer

variable (s : Streamer) (around : Surroundings) (st : StreamState)

theorem told_nextWindow_eq_nil {β : Type} {f : Notice → Option β}
    (hf : ∀ window millis, f (.fellBehind window millis) = none) (now : Instant) :
    (s.nextWindow st now).2.filterMap f = [] := by
  unfold nextWindow
  split
  · rfl
  · simp only
    split
    · exact List.filterMap_cons_none (hf _ _)
    · rfl

/-- **Progress**: of the numbers that a window takes, the multiples are told. -/
theorem progress_runWindow :
    told Notice.progress? (s.runWindow around st).state.books.notices =
      told Notice.progress? st.books.notices ++
        (List.range' (st.books.issued + 1) (s.attempts around st).length).filter
          (· % max s.settings.progressEvery 1 = 0) := by
  rw [told_runWindow s around st Notice.progress?_of_routine,
    told_nextWindow_eq_nil s st fun _ _ => rfl, progress?_progressNotices]
  simp only [TaskReport.told_joinNotices_eq_nil Notice.progress?_of_routine fun _ _ _ _ => rfl,
    TaskReport.told_lossNotices_eq_nil (f := Notice.progress?) fun _ _ _ _ => rfl]
  simp

/-- **Restarts**: a window tells of its own restart alone. -/
theorem restart_runWindow :
    told Notice.restart? (s.runWindow around st).state.books.notices =
      told Notice.restart? st.books.notices ++
        (s.nextWindow st (around.clock.read st.elapsed)).2.filterMap Notice.restart? := by
  rw [told_runWindow s around st Notice.restart?_of_routine,
    filterMap_eq_nil_of_progress fun _ => rfl]
  simp only [TaskReport.told_joinNotices_eq_nil Notice.restart?_of_routine fun _ _ _ _ => rfl,
    TaskReport.told_lossNotices_eq_nil (f := Notice.restart?) fun _ _ _ _ => rfl]
  simp

/-- **Losses**: the tasks that crashed, each reported once with all that it was given. -/
theorem loss_runWindow : ∃ losses : List Notice.Loss,
    told Notice.loss? (s.runWindow around st).state.books.notices =
        told Notice.loss? st.books.notices ++ losses ∧
      losses.Perm (((s.reports around st).filter (·.crashed)).map
        (TaskReport.loss (s.opening around st).index)) := by
  have hjoined : (joinOrder (s.reports around st)).Perm (s.reports around st) :=
    List.mergeSort_perm _ _
  refine ⟨_, ?_, TaskReport.told_losses_perm hjoined _⟩
  rw [told_runWindow s around st Notice.loss?_of_routine,
    told_nextWindow_eq_nil s st fun _ _ => rfl, filterMap_eq_nil_of_progress fun _ => rfl,
    List.append_nil, List.append_nil, List.append_assoc]

end Streamer

end ShopTraffic
