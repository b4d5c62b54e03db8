import Mathlib
import ShopTraffic.Proofs.Conservation
import ShopTraffic.Proofs.JoinOrder

/-!
# What answers change

The answer of a sink decides a notice and whether a delivery counts as failed, and nothing else. So
two streams whose sinks take the same time and differ in their answers go the same way, window by
window, whatever is accepted and whatever is refused; and no batch that was refused is handed over
again or waits for another window.

* `Sink.Alike`, `Occasion.Alike` — sinks that differ in their answers alone;
* `Books.withoutAnswers`, `StreamState.withoutAnswers` and others — what is left when answers are
  forgotten; `enter_withoutAnswers`, `runWindow_withoutAnswers` — one batch and one window;
  `record_withoutAnswers` — a history;
* `numbered_enterAll`, `numbered_runWindow` — the numbers of deliveries, answered or not;
* `Sink.refused`, `Books.Grown` — failed deliveries are those refused; `runWindow_grown` — one
  window, `Recorded.grown` — a history;
* `Task.Performed.events_le`, `Recorded.events_le` — nothing is handed over twice, or handed over
  and left waiting.
-/

set_option autoImplicit false

namespace ShopTraffic

open Chance

/-! ## Sinks that differ in their answers -/

/-- Two sinks that never break off and take the same time. -/
structure Sink.Alike (sink sink' : Sink) : Prop where
  latency : ∀ b, sink'.latency b = sink.latency b
  calm : ∀ b, sink.crash? b = none
  calm' : ∀ b, sink'.crash? b = none

theorem Sink.Alike.refl {sink sink' : Sink} (h : sink.Alike sink') : sink.Alike sink :=
  ⟨fun _ => rfl, h.calm, h.calm⟩

/-- Two occasions that differ in the answers of their sinks. -/
structure Occasion.Alike (o o' : Occasion) : Prop where
  wait : o'.wait = o.wait
  around : o'.around = { o.around with sink := o'.around.sink }
  sink : o.around.sink.Alike o'.around.sink

/-! ## Answers forgotten -/

/-- Counts without the failed deliveries. -/
def Counts.withoutAnswers (c : Counts) : Counts := { c with failedDeliveries := 0 }

/-- The books without what answers write in them. -/
def Books.withoutAnswers (b : Books) : Books :=
  { b with counts := b.counts.withoutAnswers, notices := #[] }

/-- A state without what answers left in it. -/
def StreamState.withoutAnswers (st : StreamState) : StreamState :=
  { st with books := st.books.withoutAnswers }

/-- A window without what answers left in its state. -/
def Streamer.WindowRun.withoutAnswers (run : Streamer.WindowRun) : Streamer.WindowRun :=
  { run with state := run.state.withoutAnswers }

/-- The state before a window and the window, without what answers left in them. -/
def Episode.withoutAnswers (e : Episode) : StreamState × Streamer.WindowRun :=
  (e.before.withoutAnswers, e.run.withoutAnswers)

/-- A result with answers forgotten. -/
def Streamer.forget {α β : Type} (f : α → β) :
    Except Streamer.Broken α → Except (Crash × StreamState) β
  | .ok a => .ok (f a)
  | .error broken => .error (broken.crash, broken.state.withoutAnswers)

/-- What a history shows when answers are forgotten. -/
def Streamer.recordWithoutAnswers (s : Streamer) (os : List Occasion) (st : StreamState) :
    Except (Crash × StreamState) (List (StreamState × Streamer.WindowRun) × StreamState) :=
  Streamer.forget (fun (es, st) => (es.map (·.withoutAnswers), st.withoutAnswers)) (s.record os st)

namespace Books

variable (sink sink' : Sink) (every : Nat) (b : Books)

/-- Whatever the answer, a batch is entered the same way. -/
theorem enter_withoutAnswers (a : ShardAttempt) :
    (b.enter sink' every a).withoutAnswers =
      (b.withoutAnswers.enter sink every a).withoutAnswers := by
  unfold enter withoutAnswers
  simp only
  split <;> rfl

theorem enterAll_withoutAnswers (as : List ShardAttempt) :
    (b.enterAll sink' every as).withoutAnswers =
      (b.withoutAnswers.enterAll sink every as).withoutAnswers := by
  have hcongr : ∀ {b c : Books} {sink sink' : Sink}, b.withoutAnswers = c.withoutAnswers →
      (b.enterAll sink' every as).withoutAnswers = (c.enterAll sink every as).withoutAnswers := by
    unfold enterAll
    induction as with
    | nil => exact fun h => h
    | cons a as ih =>
      intro b c sink sink' h
      rw [List.foldl_cons, List.foldl_cons]
      apply ih
      rw [b.enter_withoutAnswers sink sink', c.enter_withoutAnswers sink sink, h]
  exact hcongr rfl

end Books

theorem bookRuns_withoutAnswers (reports : List TaskReport) (sink sink' : Sink) (every : Nat)
    (b : Books) : (bookRuns reports sink' every b).withoutAnswers =
      (bookRuns reports sink every b.withoutAnswers).withoutAnswers := by
  have hentered := b.enterAll_withoutAnswers sink sink' every (inOrder reports)
  have hlater : ∀ {c c' : Books} (n : Nat) (ns ns' : Array Notice),
      c.withoutAnswers = c'.withoutAnswers →
      Books.withoutAnswers
          { c with counts := { c.counts with ticks := c.counts.ticks + n }, notices := ns } =
        Books.withoutAnswers
          { c' with counts := { c'.counts with ticks := c'.counts.ticks + n }, notices := ns' } := by
    intro c c' n ns ns' h
    exact congrArg (fun b : Books =>
      ({ b with counts := { b.counts with ticks := b.counts.ticks + n } } : Books)) h
  exact hlater _ _ _ hentered

namespace Streamer

variable (s : Streamer) (around : Surroundings) (st : StreamState) {sink' : Sink}

/-! ## One window -/

theorem beginDay_withoutAnswers (today : Day) (st : StreamState) :
    (s.beginDay today st).withoutAnswers =
      (s.beginDay today st.withoutAnswers).withoutAnswers := by
  have hday : st.withoutAnswers.day = st.day := rfl
  have hnewcomers : s.newcomers today st.withoutAnswers = s.newcomers today st := rfl
  unfold beginDay
  rw [hday, hnewcomers]
  split <;> rfl

theorem opened_withoutAnswers :
    (s.opened around st).withoutAnswers = (s.opened around st.withoutAnswers).withoutAnswers := by
  unfold opened
  rw [beginDay_withoutAnswers, s.beginDay_withoutAnswers _ (st.withoutAnswers.notify _)]
  rfl

/-- The tasks of a window do not depend on the books. -/
theorem shares_withoutAnswers : s.shares st = s.shares st.withoutAnswers := rfl

theorem tasks_withoutAnswers : s.tasks around st = s.tasks around st.withoutAnswers := by
  have hopened := s.opened_withoutAnswers around st
  have hsource := congrArg StreamState.source hopened
  unfold tasks
  rw [shares_withoutAnswers s (s.opened around st), hopened, ← shares_withoutAnswers]
  exact congrArg (fun source => (dispatch _ source).1) hsource

theorem dispatched_withoutAnswers :
    (s.dispatched around st).withoutAnswers =
      (s.dispatched around st.withoutAnswers).withoutAnswers := by
  have hopened := s.opened_withoutAnswers around st
  have hforget : ∀ (source : Source) (ns : List Notice) (st : StreamState),
      (({ st with source, backlog := {} } : StreamState).notify ns).withoutAnswers =
        { st.withoutAnswers with source, backlog := {} } := fun _ _ _ => rfl
  have hsource : (s.opened around st).source = (s.opened around st.withoutAnswers).source := by
    have hsame := congrArg StreamState.source hopened
    exact hsame
  unfold dispatched
  rw [hforget, hforget, hopened, shares_withoutAnswers s (s.opened around st), hopened,
    ← shares_withoutAnswers, hsource]

theorem reports_withoutAnswers (h : around.sink.Alike sink') :
    s.reports { around with sink := sink' } st = s.reports around st.withoutAnswers := by
  have htasks := s.tasks_withoutAnswers around st
  have helapsed := congrArg StreamState.elapsed (s.opened_withoutAnswers around st)
  have hsink : ∀ place, around.sink.AgreesOn sink' place := fun place b user _ _ =>
    ⟨h.latency b, (h.calm' b).trans (h.calm b).symm⟩
  have htasks' : s.tasks { around with sink := sink' } st = s.tasks around st := rfl
  unfold reports
  rw [htasks', htasks]
  refine List.map_congr_left fun t _ => ?_
  have hreport : s.reportOf { around with sink := sink' } st t = s.reportOf around st t := by
    show t.perform s.planner s.pace { around with sink := sink' } (s.opening around st)
      (s.opened around st).elapsed = t.perform s.planner s.pace around (s.opening around st) _
    apply Task.perform_congr
    · exact fun _ _ _ _ _ _ => rfl
    · exact fun i _ => hsink i.user.place
    · rfl
  exact hreport.trans (congrArg (t.perform s.planner s.pace around (s.opening around st)) helapsed)

theorem close_withoutAnswers (w : Window) (reports joined : List TaskReport) {st st' : StreamState}
    (h : st'.withoutAnswers = st.withoutAnswers) :
    (s.close { around with sink := sink' } w st' reports joined).withoutAnswers =
      (s.close around w st reports joined).withoutAnswers := by
  have hforget : ∀ (sink : Sink) (st : StreamState),
      (s.close { around with sink } w st reports joined).withoutAnswers =
        (s.close around w st.withoutAnswers reports joined).withoutAnswers := by
    intro sink st
    have hbooks :=
      bookRuns_withoutAnswers reports around.sink sink s.settings.progressEvery st.books
    have hstate : (s.close { around with sink } w st reports joined).state.withoutAnswers =
        (s.close around w st.withoutAnswers reports joined).state.withoutAnswers :=
      congrArg (fun b : Books =>
        ({ st.withoutAnswers with
            population := st.population.putAll (reports.flatMap (·.users))
            backlog := joinBacklog joined
            last := some w
            phase := .waitingForShards
            elapsed := (reports.map (·.elapsed)).foldl max st.elapsed
            books := { b with
              counts := (b.counts.add (taskCounts reports)).add
                { windows := 1, carried := (joinBacklog joined).count } } } : StreamState)) hbooks
    unfold WindowRun.withoutAnswers
    rw [hstate]
    rfl
  rw [hforget, h, ← hforget]

/-- **One window**: with a sink that answers otherwise, in a state that answers have left otherwise,
a window goes the same way. -/
theorem runWindow_withoutAnswers (h : around.sink.Alike sink') {st st' : StreamState}
    (hst : st'.withoutAnswers = st.withoutAnswers) :
    (s.runWindow { around with sink := sink' } st').withoutAnswers =
      (s.runWindow around st).withoutAnswers := by
  have hreports : s.reports { around with sink := sink' } st' = s.reports around st := by
    have hown : s.reports around st = s.reports around st.withoutAnswers :=
      s.reports_withoutAnswers around st h.refl
    rw [s.reports_withoutAnswers around st' h, hst, ← hown]
  have hdispatched : (s.dispatched around st').withoutAnswers =
      (s.dispatched around st).withoutAnswers := by
    rw [dispatched_withoutAnswers, hst, ← dispatched_withoutAnswers]
  have hopening : s.opening around st' = s.opening around st := by
    show s.opening around st'.withoutAnswers = s.opening around st.withoutAnswers
    rw [hst]
  rw [runWindow_eq_joinedAs, runWindow_eq_joinedAs]
  unfold joinedAs
  rw [hreports]
  show (s.close { around with sink := sink' } (s.opening around st') (s.dispatched around st')
    _ _).withoutAnswers = _
  rw [hopening]
  exact s.close_withoutAnswers around _ _ _ hdispatched

/-- A window begins or finds no room for its newcomers, whatever answers have left. -/
theorem step_withoutAnswers (h : around.sink.Alike sink') {st st' : StreamState}
    (hst : st'.withoutAnswers = st.withoutAnswers) :
    forget (·.withoutAnswers) (s.step { around with sink := sink' } st') =
      forget (·.withoutAnswers) (s.step around st) := by
  have hrun := s.runWindow_withoutAnswers around h hst
  have hnext : s.nextWindow st' (around.clock.read st'.elapsed) =
      s.nextWindow st (around.clock.read st.elapsed) := by
    show s.nextWindow st'.withoutAnswers (around.clock.read st'.withoutAnswers.elapsed) =
      s.nextWindow st.withoutAnswers (around.clock.read st.withoutAnswers.elapsed)
    rw [hst]
  have hroom : ∀ today, st'.population.size + s.newcomers today st' =
      st.population.size + s.newcomers today st := by
    intro today
    show st'.withoutAnswers.population.size + s.newcomers today st'.withoutAnswers =
      st.withoutAnswers.population.size + s.newcomers today st.withoutAnswers
    rw [hst]
  have hnotify : ∀ ns ns', (st'.notify ns).withoutAnswers = (st.notify ns').withoutAnswers :=
    fun _ _ => hst
  unfold step
  simp only [hnext, hroom]
  split
  · exact congrArg Except.ok hrun
  · unfold forget
    simp only [hnotify _ (s.nextWindow st (around.clock.read st.elapsed)).2]

/-! ## Histories -/

theorem recordWithoutAnswers_cons (o : Occasion) (os : List Occasion) :
    s.recordWithoutAnswers (o :: os) st =
      match s.step o.around (st.wait o.wait) with
      | .error broken => .error (broken.crash, broken.state.withoutAnswers)
      | .ok run => (s.recordWithoutAnswers os run.state).map fun (es, last) =>
        (((st.wait o.wait).withoutAnswers, run.withoutAnswers) :: es, last) := by
  unfold recordWithoutAnswers
  rw [record]
  cases s.step o.around (st.wait o.wait) with
  | error broken => rfl
  | ok run =>
    show forget _ ((s.record os run.state).bind _) = (forget _ (s.record os run.state)).map _
    cases s.record os run.state <;> rfl

/-- **A history** goes the same way, whatever its sinks answer. -/
theorem record_withoutAnswers {os os' : List Occasion} (hos : List.Forall₂ Occasion.Alike os os')
    {st st' : StreamState} (hst : st'.withoutAnswers = st.withoutAnswers) :
    s.recordWithoutAnswers os' st' = s.recordWithoutAnswers os st := by
  induction hos generalizing st st' with
  | nil => exact congrArg (fun st => Except.ok ([], st)) hst
  | @cons o o' os os' ho _ ih =>
    have hwait : (st'.wait o'.wait).withoutAnswers = (st.wait o.wait).withoutAnswers := by
      rw [ho.wait]
      exact congrArg (·.wait o.wait) hst
    have hstep := s.step_withoutAnswers o.around ho.sink hwait
    rw [← ho.around] at hstep
    rw [recordWithoutAnswers_cons, recordWithoutAnswers_cons, hwait]
    generalize s.step o.around (st.wait o.wait) = result at hstep ⊢
    generalize s.step o'.around (st'.wait o'.wait) = result' at hstep ⊢
    cases result with
    | error broken =>
      cases result' with
      | error broken' => exact congrArg Except.error (Except.error.inj hstep)
      | ok run' => cases hstep
    | ok run =>
      cases result' with
      | error broken' => cases hstep
      | ok run' =>
        have hsame : run'.withoutAnswers = run.withoutAnswers := Except.ok.inj hstep
        simp only [hsame, ih (congrArg WindowRun.state hsame)]

end Streamer

/-! ## Failed deliveries -/

/-- The batches that a sink refuses. -/
def Sink.refused (sink : Sink) (sent : List Sent) : List Sent :=
  sent.filter fun d => !(sink.answer d.number d.batch).isOk

theorem numberFrom_cons (issued : Nat) (b : Batch) (batches : List Batch) :
    numberFrom issued (b :: batches) = ⟨issued + 1, b⟩ :: numberFrom (issued + 1) batches := by
  unfold numberFrom
  rw [List.zipIdx_cons, List.map_cons, List.zipIdx_succ, List.map_map]
  congr 1
  refine List.map_congr_left fun x _ => ?_
  simp only [Function.comp_def, Sent.mk.injEq, and_true]
  omega

theorem numberFrom_append (issued : Nat) (xs ys : List Batch) :
    numberFrom issued (xs ++ ys) = numberFrom issued xs ++ numberFrom (issued + xs.length) ys := by
  induction xs generalizing issued with
  | nil => rfl
  | cons x xs ih =>
    have hlength : issued + (x :: xs).length = issued + 1 + xs.length := by
      rw [List.length_cons]
      omega
    rw [List.cons_append, numberFrom_cons, numberFrom_cons, ih, hlength, List.cons_append]

theorem events_numberFrom (issued : Nat) (batches : List Batch) :
    (numberFrom issued batches).flatMap (·.batch.events) = batches.flatMap (·.events) := by
  induction batches generalizing issued with
  | nil => rfl
  | cons b rest ih => rw [numberFrom_cons, List.flatMap_cons, List.flatMap_cons, ih]

/-- Books that have grown by some batches, each under the next number. Those refused are counted as
failed. -/
structure Books.Grown (sink : Sink) (b b' : Books) (batches : List Batch) : Prop where
  issued : b'.issued = b.issued + batches.length
  sent : b'.sent.toList = b.sent.toList ++ numberFrom b.issued batches
  failed : b'.counts.failedDeliveries =
    b.counts.failedDeliveries + (sink.refused (numberFrom b.issued batches)).length

namespace Books

variable {sink : Sink} {b b' b'' : Books} {xs ys : List Batch}

theorem Grown.refl (sink : Sink) (b : Books) : b.Grown sink b [] := by
  constructor
  · rfl
  · simp [numberFrom]
  · rfl

theorem Grown.trans (h : b.Grown sink b' xs) (h' : b'.Grown sink b'' ys) :
    b.Grown sink b'' (xs ++ ys) := by
  constructor
  · rw [h'.issued, h.issued, List.length_append, Nat.add_assoc]
  · rw [h'.sent, h.sent, h.issued, numberFrom_append, List.append_assoc]
  · rw [h'.failed, h.failed, h.issued, numberFrom_append, Nat.add_assoc, ← List.length_append]
    unfold Sink.refused
    rw [List.filter_append]

theorem numbered_enter (sink : Sink) (every : Nat) (b : Books) (a : ShardAttempt) :
    (b.enter sink every a).sent.toList = b.sent.toList ++ [⟨b.issued + 1, a.attempt.batch⟩] := by
  unfold enter
  simp only
  split <;> simp

/-- Batches are entered under the next numbers, answered or not. -/
theorem numbered_enterAll (sink : Sink) (every : Nat) (b : Books) (as : List ShardAttempt) :
    (b.enterAll sink every as).sent.toList =
      b.sent.toList ++ numberFrom b.issued (as.map (·.attempt.batch)) := by
  unfold enterAll
  induction as generalizing b with
  | nil => simp [numberFrom]
  | cons a as ih =>
    rw [List.foldl_cons, ih, numbered_enter, issued_enter, List.map_cons, numberFrom_cons,
      List.append_assoc, List.singleton_append]

theorem enter_grown (sink : Sink) (every : Nat) (b : Books) {a : ShardAttempt}
    (h : a.attempt.answered) : b.Grown sink (b.enter sink every a) [a.attempt.batch] := by
  constructor
  · exact issued_enter sink every b a
  · exact numbered_enter sink every b a
  · unfold enter Sink.refused
    simp only [h, Bool.true_and]
    rw [numberFrom_cons, List.filter_cons]
    cases sink.answer (b.issued + 1) a.attempt.batch <;> split <;> rfl

/-- **Failed deliveries are those that the sink refuses**, where it answers every one. -/
theorem enterAll_grown (sink : Sink) (every : Nat) (b : Books) {as : List ShardAttempt}
    (h : ∀ a ∈ as, a.attempt.answered) :
    b.Grown sink (b.enterAll sink every as) (as.map (·.attempt.batch)) := by
  unfold enterAll
  induction as generalizing b with
  | nil => exact .refl sink b
  | cons a as ih =>
    obtain ⟨ha, has⟩ := List.forall_mem_cons.1 h
    exact (enter_grown sink every b ha).trans (ih _ has)

end Books

/-! ## Answered batches -/

section Replies

variable {sink : Sink} {clock : Clock} {interval : Interval}

/-- A tick breaks off on a batch without an answer only where the sink does. -/
theorem serve_answered (hsink : ∀ b, sink.crash? b = none) (now : Instant) (queues : List Queue)
    (elapsed : Nat) :
    ∀ breakdown, (serve sink clock now queues elapsed).broken = some breakdown →
      breakdown.answered := by
  induction queues generalizing elapsed with
  | nil =>
    intro breakdown h
    cases h
  | cons q rest ih =>
    unfold serve
    simp only [hsink]
    split
    · exact ih elapsed
    · split
      · intro breakdown hbroken
        cases hbroken
        rfl
      · exact ih _

theorem Run.toDeadline_answered (hsink : ∀ b, sink.crash? b = none) (deadline : Instant) (r : Run)
    (h : ∀ breakdown, r.broken = some breakdown → breakdown.answered) :
    ∀ breakdown, (toDeadline sink clock interval deadline r).broken = some breakdown →
      breakdown.answered := by
  fun_induction toDeadline sink clock interval deadline r with
  | case1 r hgoes next hnext ih =>
    exact ih (serve_answered hsink (clock.read r.elapsed) r.queues r.elapsed)
  | case2 r hgoes next hnext =>
    exact serve_answered hsink (clock.read r.elapsed) r.queues r.elapsed
  | case3 r hover => exact h

theorem Run.attempts_answered {r : Run}
    (h : ∀ breakdown, r.broken = some breakdown → breakdown.answered) :
    ∀ a ∈ r.attempts, a.answered := by
  intro a ha
  unfold attempts at ha
  split at ha
  · obtain ⟨b, -, rfl⟩ := List.mem_map.1 ha
    rfl
  · rename_i breakdown hbroken
    rcases List.mem_append.1 ha with ha | ha
    · obtain ⟨b, -, rfl⟩ := List.mem_map.1 ha
      rfl
    · obtain ⟨b, -, rfl⟩ := List.mem_map.1 ha
      exact h breakdown hbroken

/-- A task whose sink does not break off has an answer for every batch. -/
theorem Task.Performed.answered {t : Task} {pace : Pace} {around : Surroundings} {w : Window}
    {start : Nat} {kept : List Event} {r : TaskReport}
    (h : t.Performed pace around w start kept r) (hsink : ∀ b, around.sink.crash? b = none) :
    ∀ a ∈ r.attempts, a.answered := by
  cases h with
  | @paced drafts tally users run _ _ _ _ hrun =>
    refine Run.attempts_answered (r := run) ?_
    rw [hrun]
    refine Run.toDeadline_answered hsink _ _ fun breakdown hnone => ?_
    cases hnone
  | failed _ _ _ => exact fun _ ha => absurd ha List.not_mem_nil
  | crashed _ _ => exact fun _ ha => absurd ha List.not_mem_nil

end Replies

/-- The batches of an episode under their numbers. -/
def Episode.sent (e : Episode) : List Sent :=
  e.run.state.books.sent.toList.drop e.before.books.sent.size

/-- The batches of an episode that were refused. -/
def Episode.refused (e : Episode) : List Sent := e.around.sink.refused e.sent

namespace Streamer

variable {s : Streamer} {around : Surroundings} {st st' : StreamState}

theorem opened_issued (s : Streamer) (around : Surroundings) (st : StreamState) :
    (s.opened around st).books.issued = st.books.issued := by
  unfold opened beginDay
  split <;> rfl

theorem opened_sent (s : Streamer) (around : Surroundings) (st : StreamState) :
    (s.opened around st).books.sent = st.books.sent := by
  unfold opened beginDay
  split <;> rfl

/-- The end of a window takes one number for each batch. -/
theorem numbered_close (s : Streamer) (around : Surroundings) (w : Window) (st : StreamState)
    (reports joined : List TaskReport) :
    (s.close around w st reports joined).state.books.issued =
        st.books.issued + (inOrder reports).length ∧
      (s.close around w st reports joined).state.books.sent.toList =
        st.books.sent.toList ++
          numberFrom st.books.issued ((inOrder reports).map (·.attempt.batch)) :=
  ⟨Books.issued_enterAll _ _ _ _, Books.numbered_enterAll _ _ _ _⟩

theorem failed_close (s : Streamer) (around : Surroundings) (w : Window) (st : StreamState)
    {reports : List TaskReport} (joined : List TaskReport)
    (h : ∀ a ∈ inOrder reports, a.attempt.answered) :
    (s.close around w st reports joined).state.books.counts.failedDeliveries =
      st.books.counts.failedDeliveries + (around.sink.refused
        (numberFrom st.books.issued ((inOrder reports).map (·.attempt.batch)))).length :=
  (Books.enterAll_grown around.sink s.settings.progressEvery st.books h).failed

/-- **The numbers of a window**: one for each batch, in the order in which they are booked. -/
theorem numbered_runWindow (s : Streamer) (around : Surroundings) (st : StreamState) :
    (s.runWindow around st).state.books.issued = st.books.issued + (s.attempts around st).length ∧
      (s.runWindow around st).state.books.sent.toList =
        st.books.sent.toList ++
          numberFrom st.books.issued ((s.attempts around st).map (·.batch)) := by
  obtain ⟨source, notices, hrun⟩ := s.runWindow_eq around st
  unfold attempts
  rw [hrun, (numbered_close ..).1, (numbered_close ..).2, List.length_map, List.map_map,
    ← s.opened_issued around st, ← s.opened_sent around st]
  exact ⟨rfl, rfl⟩

/-- **The failed deliveries of a window** are those that the sink refuses. -/
theorem runWindow_grown (s : Streamer) (st : StreamState)
    (hsink : ∀ b, around.sink.crash? b = none) :
    st.books.Grown around.sink (s.runWindow around st).state.books
      ((s.attempts around st).map (·.batch)) := by
  have hanswered : ∀ a ∈ inOrder (s.reports around st), a.attempt.answered := by
    intro a ha
    obtain ⟨t, -, hmem⟩ := mem_attempts.1 (List.mem_map_of_mem ha)
    exact (performed s around st t).answered hsink a.attempt hmem
  obtain ⟨hissued, hsent⟩ := s.numbered_runWindow around st
  constructor
  · rw [hissued, List.length_map]
  · exact hsent
  · obtain ⟨source, notices, hrun⟩ := s.runWindow_eq around st
    unfold attempts
    rw [hrun, s.failed_close _ _ _ _ hanswered, List.map_map, ← s.opened_issued around st,
      ← s.opened_counts around st]
    rfl

theorem Recorded.grown {os : List Occasion} {es : List Episode} (h : s.Recorded st os es st')
    (hsink : ∀ o ∈ os, ∀ b, o.around.sink.crash? b = none) :
    st'.books.sent.toList = st.books.sent.toList ++ es.flatMap (·.sent) ∧
      st'.books.counts.failedDeliveries =
        st.books.counts.failedDeliveries + (es.flatMap (·.refused)).length := by
  induction h with
  | nil st => simp
  | @cons st st' o os es hrest ih =>
    obtain ⟨hfirst, hlater⟩ := List.forall_mem_cons.1 hsink
    have hgrown := s.runWindow_grown (st.wait o.wait) hfirst
    obtain ⟨hsent, hfailed⟩ := ih hlater
    have hepisode : Episode.sent ⟨o.around, st.wait o.wait, s.runWindow o.around (st.wait o.wait)⟩ =
        numberFrom (st.wait o.wait).books.issued
          ((s.attempts o.around (st.wait o.wait)).map (·.batch)) := by
      unfold Episode.sent
      simp only [hgrown.sent]
      exact List.drop_left' (by simp)
    rw [hsent, hfailed, hgrown.sent, hgrown.failed, List.flatMap_cons, List.flatMap_cons,
      List.length_append]
    unfold Episode.refused
    rw [hepisode, List.append_assoc, Nat.add_assoc]
    exact ⟨rfl, rfl⟩

end Streamer

/-! ## Nothing twice -/

/-- **A task hands nothing over twice**, and returns nothing that it hands over, whatever way it
goes. -/
theorem Task.Performed.events_le {t : Task} {pace : Pace} {around : Surroundings} {w : Window}
    {start : Nat} {kept : List Event} {r : TaskReport}
    (h : t.Performed pace around w start kept r) :
    ((r.attempts.flatMap (·.batch.events) : List Event) : Multiset Event) +
        (r.returned.flatMap (·.events) : List Event) ≤
      (t.intakes.flatMap (·.carried) : List Event) + (kept : Multiset Event) := by
  by_cases hcalm : r.crashed = false
  · exact (h.events hcalm).le
  · cases h with
    | @paced drafts tally users run hdrafts hkept hgenerated husers hrun =>
      -- A run that broke off returns nothing, not even what its queues still hold.
      have hbroken : run.broken.isSome = true := Bool.of_not_eq_false hcalm
      rw [← Task.Performed.run_events (.paced hdrafts hkept hgenerated husers hrun) rfl]
      simp only [TaskReport.returned, hbroken, if_true]
      exact add_le_add le_rfl (Multiset.zero_le _)
    | failed _ _ _ => exact absurd rfl hcalm
    | crashed _ _ => exact Multiset.zero_le _

namespace Streamer

variable {s : Streamer} {around : Surroundings} {st st' : StreamState}

theorem tasks_events_le (s : Streamer) (around : Surroundings) (st : StreamState) :
    ∀ ts : List Task,
      ((ts.flatMap fun t => (s.reportOf around st t).attempts.flatMap (·.batch.events) : List Event) :
          Multiset Event) +
          (ts.flatMap fun t => (s.reportOf around st t).returned.flatMap (·.events) : List Event) ≤
        (ts.flatMap fun t => t.intakes.flatMap (·.carried) : List Event) +
          (ts.flatMap fun t => t.kept s.planner around.generator (s.opening around st) : List Event)
  | [] => le_rfl
  | t :: ts => by
    have htask := (performed s around st t).events_le
    have hrest := tasks_events_le s around st ts
    simp only [List.flatMap_cons, ← Multiset.coe_add]
    rw [add_add_add_comm, add_add_add_comm (↑(t.intakes.flatMap (·.carried)) : Multiset Event)]
    exact add_le_add htask hrest

/-- **A window hands nothing over twice**, and nothing that it hands over waits for another. -/
theorem reports_events_le (s : Streamer) (around : Surroundings) (h : st.Sound) :
    (((s.attempts around st).flatMap (·.batch.events) : List Event) : Multiset Event) +
        (s.runWindow around st).state.backlog.events ≤
      st.backlog.events + (s.newlyKept around st : Multiset Event) := by
  rw [coe_attempts_events, coe_returned_events, ← coe_carried_events h]
  exact tasks_events_le s around st _

/-- In a history, what is handed over or held at the end is no more than what was so at the
beginning and what builds kept on the way. -/
theorem Recorded.events_le {os : List Occasion} {es : List Episode} (h : s.Recorded st os es st')
    (hsound : st.Sound) :
    ((st'.books.batches.flatMap (·.events) : List Event) : Multiset Event) + st'.backlog.events ≤
      ((st.books.batches.flatMap (·.events) : List Event) + st.backlog.events) +
        (es.flatMap (Episode.kept s) : List Event) := by
  induction h with
  | nil st => simp
  | @cons st st' o _ es _ ih =>
    have hwait : (st.wait o.wait).Sound := wait_sound hsound o.wait
    have hwindow := reports_events_le s o.around hwait
    have hlater := ih (runWindow_sound hwait)
    rw [runWindow_batches, List.flatMap_append, ← Multiset.coe_add, List.flatMap_map] at hlater
    rw [List.flatMap_cons, ← Multiset.coe_add, episode_kept]
    calc _ ≤ ((st.books.batches.flatMap (·.events) : List Event) : Multiset Event) +
          (((s.attempts o.around (st.wait o.wait)).flatMap (·.batch.events) : List Event) +
            (s.runWindow o.around (st.wait o.wait)).state.backlog.events) +
          (es.flatMap (Episode.kept s) : List Event) := by
            rw [← add_assoc]
            exact hlater
      _ ≤ ((st.books.batches.flatMap (·.events) : List Event) : Multiset Event) +
          (st.backlog.events + (s.newlyKept o.around (st.wait o.wait) : Multiset Event)) +
          (es.flatMap (Episode.kept s) : List Event) :=
            add_le_add (add_le_add le_rfl hwindow) le_rfl
      _ = _ := by simp only [add_assoc]

end Streamer

end ShopTraffic
