import Mathlib
import ShopTraffic.Proofs.BackfillAnswers
import ShopTraffic.Proofs.Interleaving
import ShopTraffic.Proofs.JoinOrder

/-!
# The numbers of deliveries

Every delivery of a stream takes the next number of one counter. What a task hands over does not
depend on these numbers, so the tasks of a window can be told apart from the order in which they get
their turns: whatever the order, the same batches are handed over in sequence, and the books of a
stream show one of these orders. A backfill hands over flush by flush, each in order.

* `Streamer.queues_apart`, `Streamer.merges_runWindow` — what the tasks of a window hand over, and the
  order in which it is booked;
* `Interleaved` — the windows of a history, the tasks of each in any order; `Interleaved.sound`;
* `Streamer.Numbering`, `Backfill.Numbering` — deliveries in sequence; `deliveries_sequenced`.
-/

set_option autoImplicit false

namespace ShopTraffic

open Chance

/-! ## The tasks of a window -/

/-- A batch of one of the users of a task. -/
def Task.handles (t : Task) (b : Batch) : Bool := t.intakes.any fun i => b.isFor i.user.id

/-- What the tasks of a window hand over, each in its own order. -/
def Episode.queues (e : Episode) : List (List Batch) :=
  e.run.reports.map fun r => r.attempts.map (·.batch)

namespace Streamer

variable {s : Streamer} {around : Surroundings} {st : StreamState}

/-- A task hands over batches of its users alone. -/
theorem mem_ids_of_attempt {t : Task} {a : Attempt} (ha : a ∈ (s.reportOf around st t).attempts)
    {id : UserId} (hid : a.batch.isFor id) : id ∈ t.intakes.map (·.user.id) := by
  by_contra hnot
  have hnone : attemptsFor id (s.reportOf around st t).attempts = [] := attemptsFor_report_eq_nil hnot
  exact List.filter_eq_nil_iff.1 hnone a ha hid

/-- A task hands over no batch that is nobody's. -/
theorem handles_of_attempt {t : Task} {a : Attempt} (ha : a ∈ (s.reportOf around st t).attempts) :
    t.handles a.batch := by
  obtain ⟨u, howner, hplace⟩ := (performed s around st t).owner_place ha
  obtain ⟨i, hi, heq⟩ := List.mem_map.1 hplace
  refine List.any_eq_true.2 ⟨i, hi, ?_⟩
  have hid : i.user.id = u.id := congrArg Prod.fst heq
  rw [Batch.isFor, howner, hid]
  exact decide_eq_true rfl

/-- Where users are handed to one task each, a task handles no batch of another one. -/
theorem not_handles_of_attempt {t t' : Task}
    (hdisjoint : (t.intakes.map (·.user.id)).Disjoint (t'.intakes.map (·.user.id))) {a : Attempt}
    (ha : a ∈ (s.reportOf around st t').attempts) : ¬ t.handles a.batch := by
  intro hhandles
  obtain ⟨i, hi, hid⟩ := List.any_eq_true.1 hhandles
  exact hdisjoint (List.mem_map_of_mem hi) (mem_ids_of_attempt ha hid)

variable (hnd : ((s.allIntakes (s.opened around st)).map (·.user.id)).Nodup)

include hnd

/-- The users of two tasks are different ones. -/
theorem tasks_disjoint : (s.tasks around st).Pairwise fun t t' =>
    (t.intakes.map (·.user.id)).Disjoint (t'.intakes.map (·.user.id)) := by
  rw [← task_intakes, List.map_flatMap, List.nodup_flatMap] at hnd
  exact hnd.2

/-- The users of one task are different from those of all others. -/
theorem disjoint_of_split {pre post : List Task} {t : Task}
    (hsplit : s.tasks around st = pre ++ t :: post) {t' : Task} (ht' : t' ∈ pre ++ post) :
    (t.intakes.map (·.user.id)).Disjoint (t'.intakes.map (·.user.id)) := by
  have hdisjoint := tasks_disjoint hnd
  rw [hsplit, List.pairwise_append, List.pairwise_cons] at hdisjoint
  obtain ⟨-, ⟨hpost, -⟩, hacross⟩ := hdisjoint
  rcases List.mem_append.1 ht' with ht' | ht'
  · exact (hacross t' ht' t (List.mem_cons_self ..)).symm
  · exact hpost t' ht'

/-- No user has batches from two tasks of a window. -/
theorem queues_apart :
    (Episode.queues ⟨around, st, s.runWindow around st⟩).Pairwise Apart := by
  unfold Episode.queues
  rw [runWindow_reports, reports, List.map_map, List.pairwise_map]
  refine (tasks_disjoint hnd).imp ?_
  intro t t' hdisjoint b hb b' hb'
  obtain ⟨a, ha, rfl⟩ := List.mem_map.1 hb
  obtain ⟨a', ha', rfl⟩ := List.mem_map.1 hb'
  rintro ⟨id, hid, hid'⟩
  exact hdisjoint (mem_ids_of_attempt ha hid) (mem_ids_of_attempt ha' hid')

/-- Of all that a window hands over a task handles what it hands over itself. -/
theorem attempts_of_task {pre post : List Task} {t : Task}
    (hsplit : s.tasks around st = pre ++ t :: post) :
    (s.attempts around st).filter (fun a => t.handles a.batch) =
      (s.reportOf around st t).attempts := by
  have hown : (s.reportOf around st t).attempts.filter (fun a => t.handles a.batch) =
      (s.reportOf around st t).attempts := List.filter_eq_self.2 fun a ha => handles_of_attempt ha
  have hothers : ∀ ts : List Task, ts ⊆ pre ++ post →
      (ts.flatMap fun t' => (s.reportOf around st t').attempts.filter
        fun a => t.handles a.batch) = [] := by
    intro ts hts
    refine List.flatMap_eq_nil_iff.2 fun t' ht' => List.filter_eq_nil_iff.2 fun a ha => ?_
    exact not_handles_of_attempt (disjoint_of_split hnd hsplit (hts ht')) ha
  have hall : ((s.reports around st).flatMap (·.attempts)).filter (fun a => t.handles a.batch) =
      (s.reportOf around st t).attempts.filter (fun a => t.handles a.batch) := by
    rw [reports, List.flatMap_map, List.filter_flatMap, hsplit, List.flatMap_append,
      List.flatMap_cons, hothers pre (List.subset_append_left _ _),
      hothers post (List.subset_append_right _ _), List.nil_append, List.append_nil]
  rw [filter_attempts hall, hown]

/-- **The order in which a window is booked** merges what its tasks hand over. -/
theorem merges_runWindow :
    Merges (Episode.queues ⟨around, st, s.runWindow around st⟩)
      ((s.attempts around st).map (·.batch)) := by
  have hmerges : Merges (((s.tasks around st).map Task.handles).map fun p =>
      ((s.attempts around st).map (·.batch)).filter p) ((s.attempts around st).map (·.batch)) := by
    apply merges_filter
    intro b hb
    obtain ⟨a, ha, rfl⟩ := List.mem_map.1 hb
    obtain ⟨t, ht, ha⟩ := mem_attempts.1 ha
    obtain ⟨pre, post, hsplit⟩ := List.append_of_mem ht
    refine ⟨pre.map Task.handles, t.handles, post.map Task.handles, ?_, handles_of_attempt ha, ?_⟩
    · rw [hsplit, List.map_append, List.map_cons]
    · rw [← List.map_append]
      intro p hp
      obtain ⟨t', ht', rfl⟩ := List.mem_map.1 hp
      exact not_handles_of_attempt (disjoint_of_split hnd hsplit ht').symm ha
  have hqueues : Episode.queues ⟨around, st, s.runWindow around st⟩ =
      ((s.tasks around st).map Task.handles).map fun p =>
        ((s.attempts around st).map (·.batch)).filter p := by
    unfold Episode.queues
    rw [runWindow_reports, reports, List.map_map, List.map_map]
    refine List.map_congr_left fun t ht => ?_
    obtain ⟨pre, post, hsplit⟩ := List.append_of_mem ht
    show (s.reportOf around st t).attempts.map (·.batch) =
      ((s.attempts around st).map (·.batch)).filter t.handles
    rw [List.filter_map, ← attempts_of_task hnd hsplit]
    rfl
  rw [hqueues]
  exact hmerges

end Streamer

/-! ## The books of a stream -/

/-- What senders share and the books of a stream show the same deliveries. -/
structure Ledger.Shows (l : Ledger) (b : Books) : Prop where
  issued : l.issued = b.issued
  handed : l.handed = b.sent.toList
  lines : l.lines = told Notice.progress? b.notices

theorem Ledger.lines_handAll (every : Nat) (l : Ledger) (batches : List Batch) :
    (l.handAll every batches).lines =
      l.lines ++ (List.range' (l.issued + 1) batches.length).filter (· % max every 1 = 0) := by
  rw [← progress?_progressNotices]
  exact List.filterMap_append

namespace Streamer

variable {s : Streamer} {os : List Occasion} {es : List Episode} {st st' : StreamState}

/-- What is shared after a window shows the same as its books. -/
theorem shows_runWindow {l : Ledger} (h : l.Shows st.books) (around : Surroundings) :
    (l.handAll s.settings.progressEvery ((s.attempts around st).map (·.batch))).Shows
      (s.runWindow around st).state.books := by
  obtain ⟨hissued, hsent⟩ := s.numbered_runWindow around st
  constructor
  · rw [hissued, ← h.issued, ← List.length_map (·.batch)]
    rfl
  · rw [hsent, ← h.handed, ← h.issued]
    rfl
  · rw [progress_runWindow, Ledger.lines_handAll, h.lines, h.issued, List.length_map]

end Streamer

/-! ## Histories -/

/-- The tasks of one window after the other hand over all that they have, those of each window in any
order. -/
inductive Interleaved (every : Nat) : Ledger → List Episode → Ledger → Prop
  | nil (l : Ledger) : Interleaved every l [] l
  | cons {l l' l'' : Ledger} {e : Episode} {es : List Episode} : l.Passes every e.queues l' →
    Interleaved every l' es l'' → Interleaved every l (e :: es) l''

namespace Interleaved

variable {every : Nat} {l l' : Ledger} {es : List Episode}

/-- **Whatever the order**, deliveries stay in sequence. -/
theorem sound (h : Interleaved every l es l') (hl : l.Sound every)
    (hes : ∀ e ∈ es, e.queues.Pairwise Apart) : l'.Sound every := by
  induction h with
  | nil => exact hl
  | cons hpasses _ ih =>
    obtain ⟨hfirst, hlater⟩ := List.forall_mem_cons.1 hes
    exact ih (hpasses.sound hl hfirst) hlater

/-- Whatever the order, the same batches are handed over. -/
theorem batches_perm (h : Interleaved every l es l') :
    (l'.handed.map (·.batch)).Perm
      (l.handed.map (·.batch) ++ es.flatMap fun e => e.queues.flatten) := by
  induction h with
  | nil l => rw [List.flatMap_nil, List.append_nil]
  | cons hpasses _ ih =>
    rw [List.flatMap_cons, ← List.append_assoc]
    exact ih.trans (hpasses.batches_perm.append_right _)

end Interleaved

namespace Streamer

variable {s : Streamer} {os : List Occasion} {es : List Episode} {st st' : StreamState}

/-- The books of a history show one of the orders in which its tasks can hand over. -/
theorem Recorded.interleaved (h : s.Recorded st os es st') (hsound : st.Sound)
    (hp : st'.population.Distinct) {l : Ledger} (hl : l.Shows st.books) :
    ∃ l', Interleaved s.settings.progressEvery l es l' ∧ l'.Shows st'.books := by
  induction h generalizing l with
  | nil => exact ⟨l, .nil l, hl⟩
  | @cons st st' o _ _ hrest ih =>
    have hnow : (st.wait o.wait).Sound := wait_sound hsound o.wait
    have hids := allIntakes_ids_nodup (s := s) (opened_sound hnow) (hrest.distinct_opened hsound hp)
    have hpasses := l.passes_of_merges s.settings.progressEvery (merges_runWindow hids)
    have hwait : l.Shows (st.wait o.wait).books := ⟨hl.issued, hl.handed, hl.lines⟩
    obtain ⟨l', hlater, hshows⟩ := ih (runWindow_sound hnow) hp (shows_runWindow hwait o.around)
    exact ⟨l', .cons hpasses hlater, hshows⟩

/-- In no window of a history a user has batches from two tasks. -/
theorem Recorded.pairwise_apart (h : s.Recorded st os es st') (hsound : st.Sound)
    (hp : st'.population.Distinct) : ∀ e ∈ es, e.queues.Pairwise Apart := by
  refine (h.preserves (P := fun _ => True) (A := fun _ => True) (fun _ _ _ => trivial) ?_ hsound hp
    trivial fun _ _ => trivial).2
  intro around st hst hdistinct _ _
  exact ⟨trivial, queues_apart (allIntakes_ids_nodup (opened_sound hst) hdistinct)⟩

/-- The deliveries of a history are in sequence, in the order in which they are booked as in any other
order in which the tasks of each window can hand over. -/
structure Numbering (s : Streamer) (es : List Episode) (st : StreamState) : Prop where
  booked : Sequenced s.settings.progressEvery st.books.sent.toList
    (told Notice.progress? st.books.notices)
  /-- What is booked is one of the orders. -/
  possible : ∃ l, Interleaved s.settings.progressEvery {} es l ∧ l.Shows st.books
  /-- In every order the same batches are handed over in sequence. -/
  interleaved : ∀ l, Interleaved s.settings.progressEvery {} es l →
    Sequenced s.settings.progressEvery l.handed l.lines ∧
      (l.handed.map (·.batch)).Perm st.books.batches

theorem numbering_of_record {population : Population} {entropy : Nat}
    (h : s.record os (s.start population entropy) = .ok (es, st)) (hp : st.population.Distinct) :
    s.Numbering es st := by
  have hrecorded := recorded_of_record h
  have hsound : (s.start population entropy).Sound := start_sound s population entropy
  have hshows : ({} : Ledger).Shows (s.start population entropy).books := ⟨rfl, rfl, rfl⟩
  have hapart := hrecorded.pairwise_apart hsound hp
  obtain ⟨booked, hbooked, hbooks⟩ := hrecorded.interleaved hsound hp hshows
  have hsequenced : ∀ l, Interleaved s.settings.progressEvery {} es l →
      Sequenced s.settings.progressEvery l.handed l.lines := fun l hl =>
    (hl.sound (Ledger.sound_empty _) hapart).sequenced
  have hbatches : booked.handed.map (·.batch) = st.books.batches := by
    rw [hbooks.handed]
    rfl
  constructor
  · rw [← hbooks.handed, ← hbooks.lines]
    exact hsequenced booked hbooked
  · exact ⟨booked, hbooked, hbooks⟩
  · intro l hl
    refine ⟨hsequenced l hl, ?_⟩
    rw [← hbatches]
    exact hl.batches_perm.trans hbooked.batches_perm.symm

end Streamer

/-! ## Backfills -/

/-- A backfill that has numbered its batches in the order in which it handed them over. -/
def BackfillState.Numbered (every : Nat) (st : BackfillState) : Prop :=
  ∃ batches, st.issued = batches.length ∧ st.sent.toList = numberFrom 0 batches ∧
    told Notice.progress? st.notices =
      (List.range' 1 batches.length).filter (· % max every 1 = 0)

namespace Backfill

variable {b : Backfill} {sink : Sink} {clock : Clock} {st st' : BackfillState}

/-- Of the numbers that a flush takes, the multiples are told. -/
theorem progress_flush (b : Backfill) (sink : Sink) (clock : Clock) (events : List Event)
    (st : BackfillState) :
    told Notice.progress? (b.flush sink clock events st).notices =
      told Notice.progress? st.notices ++
        (List.range' (st.issued + 1) (b.batchesOf clock st.elapsed events).length).filter
          (· % max b.progressEvery 1 = 0) := by
  have hsink : ((b.batchesOf clock st.elapsed events).flatMap sink.notices).filterMap
      Notice.progress? = [] := by
    apply filterMap_routine Notice.progress?_of_routine
    intro n hn
    obtain ⟨batch, -, hn⟩ := List.mem_flatMap.1 hn
    exact sink.notices_routine batch n hn
  have hfailures : ∀ failures : List (Batch × DeliveryError),
      (failures.map fun failure =>
        Notice.bulkFailed failure.1.events.length failure.2).filterMap Notice.progress? = [] := by
    intro failures
    apply filterMap_routine Notice.progress?_of_routine
    intro n hn
    obtain ⟨failure, -, rfl⟩ := List.mem_map.1 hn
    rfl
  have hnumbers : ((numberFrom st.issued (b.batchesOf clock st.elapsed events)).flatMap
      fun d => progressNotice b.progressEvery d.number).filterMap Notice.progress? =
        (List.range' (st.issued + 1) (b.batchesOf clock st.elapsed events).length).filter
          (· % max b.progressEvery 1 = 0) := by
    rw [← map_number_numberFrom, ← progress?_progressNotices, List.flatMap_map]
  have htold : told Notice.progress? (st.notices ++
      ((numberFrom st.issued (b.batchesOf clock st.elapsed events)).flatMap
        (fun d => progressNotice b.progressEvery d.number) ++
          (b.batchesOf clock st.elapsed events).flatMap sink.notices)) =
      told Notice.progress? st.notices ++
        (List.range' (st.issued + 1) (b.batchesOf clock st.elapsed events).length).filter
          (· % max b.progressEvery 1 = 0) := by
    rw [told_append, List.filterMap_append, hnumbers, hsink, List.append_nil]
  unfold flush BackfillState.notify
  simp only
  split
  · exact htold
  · rw [told_append, hfailures, List.append_nil]
    exact htold

/-- **What every flush preserves**: it numbers its batches in order. -/
theorem Flushes.numbered (h : b.Flushes sink clock st st') (hst : st.Numbered b.progressEvery) :
    st'.Numbered b.progressEvery := by
  induction h with
  | @quiet st st' hledger hnotices =>
    obtain ⟨batches, hissued, hsent, htold⟩ := hst
    have hissued' : st'.issued = st.issued := congrArg Books.issued hledger
    have hsent' : st'.sent = st.sent := congrArg Books.sent hledger
    exact ⟨batches, hissued'.trans hissued, hsent' ▸ hsent, hnotices.trans htold⟩
  | flush events st =>
    obtain ⟨batches, hissued, hsent, htold⟩ := hst
    refine ⟨batches ++ b.batchesOf clock st.elapsed events, ?_, ?_, ?_⟩
    · rw [flush_issued, hissued, List.length_append]
    · rw [flush_sent, Array.toList_appendList, hsent, hissued, numberFrom_append, Nat.zero_add]
    · rw [progress_flush, htold, hissued, ← List.filter_append, List.length_append,
        ← List.range'_append_1, Nat.add_comm 1]
  | trans _ _ ih ih' => exact ih' (ih hst)

/-- Backfills one after the other, each of the days before the given one. -/
def runAll (b : Backfill) (generator : Generator) (sink : Sink) (clock : Clock) (todays : List Day)
    (st : BackfillState) : BackfillState :=
  todays.foldl (fun st today => b.run generator sink clock today st) st

theorem runAll_numbered (b : Backfill) (generator : Generator) (sink : Sink) (clock : Clock)
    (todays : List Day) {st : BackfillState} (hst : st.Numbered b.progressEvery) :
    (b.runAll generator sink clock todays st).Numbered b.progressEvery := by
  unfold runAll
  induction todays generalizing st with
  | nil => exact hst
  | cons today rest ih => exact ih ((b.run_flushes generator clock sink today st).numbered hst)

/-- The deliveries of a backfill are in sequence, in the order of their numbers. -/
structure Numbering (b : Backfill) (st : BackfillState) : Prop where
  sequenced : Sequenced b.progressEvery st.sent.toList (told Notice.progress? st.notices)
  inOrder : st.sent.toList.map (·.number) = List.range' 1 st.sent.toList.length

theorem numbering_of_numbered (h : st.Numbered b.progressEvery) : b.Numbering st := by
  obtain ⟨batches, -, hsent, htold⟩ := h
  constructor
  · rw [hsent, htold]
    exact sequenced_numberFrom b.progressEvery batches
  · rw [hsent, map_number_numberFrom, length_numberFrom]

end Backfill

/-! ## Streams and backfills -/

/-- **Deliveries are in sequence**: those of every stream over different users, whatever order the
tasks of its windows get their turns in, and those of every backfill, whatever is answered and
whatever breaks off. -/
theorem deliveries_sequenced :
    (∀ (s : Streamer) (population : Population) (entropy : Nat) {os : List Occasion}
      {es : List Episode} {st : StreamState},
      s.record os (s.start population entropy) = .ok (es, st) → st.population.Distinct →
        s.Numbering es st) ∧
    ∀ (b : Backfill) (generator : Generator) (sink : Sink) (clock : Clock) (population : Population)
      (source : Source) (todays : List Day),
      b.Numbering (b.runAll generator sink clock todays { population, source }) := by
  constructor
  · intro s population entropy os es st h hp
    exact Streamer.numbering_of_record h hp
  · intro b generator sink clock population source todays
    have hstart : (({ population, source } : BackfillState)).Numbered b.progressEvery :=
      ⟨[], rfl, rfl, rfl⟩
    exact Backfill.numbering_of_numbered (b.runAll_numbered generator sink clock todays hstart)

/-- Two windows of the small stream, and a backfill that is run on two days. -/
theorem deliveries_sequenced_daily :
    (∃ es st, Streamer.daily.record Occasion.twoDays (Streamer.daily.start .single 0) = .ok (es, st) ∧
      st.population.Distinct ∧ Streamer.daily.Numbering es st) ∧
    Backfill.twoDays.Numbering (Backfill.twoDays.runAll Surroundings.twoEvents.generator .accepting
      (.startingAt .zero) [⟨5, by decide⟩, ⟨6, by decide⟩]
      { population := .single, source := .ofSeed 0 }) := by
  obtain ⟨es, st, hrecord, hsize⟩ := Streamer.daily_record
  have hdistinct : st.population.Distinct := Population.distinct_of_size_le_one hsize
  exact ⟨⟨es, st, hrecord, hdistinct, deliveries_sequenced.1 _ _ _ hrecord hdistinct⟩,
    deliveries_sequenced.2 ..⟩

end ShopTraffic
