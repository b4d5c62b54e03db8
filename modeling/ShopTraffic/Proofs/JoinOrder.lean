import Mathlib
import ShopTraffic.Proofs.Isolation

/-!
# The order in which tasks are joined

A window joins its tasks as they end, and what each returns goes into one backlog and one summary.
Tasks of different users can be joined in any order: to add the leftovers of two users commutes, as
it is the identities alone that say where an entry stands and with which it is merged, and everything
else that is gathered is a sum.

* `Backlog.insertEntry_comm`, `Backlog.absorb_comm` — leftovers of different users;
* `Joining`, `Joining.join` — what a window has gathered, and one task more; `join_comm` — two tasks
  of different users; `foldl_join_perm` — all tasks in any order;
* `Streamer.dispatched`, `Streamer.joinedAs` — a window up to the joining of its tasks, and its end
  for an order; `joinedAs_gathered` — the end is what the joins come to;
* `runWindow_anyOrder` — a window of different users, whatever the order.
-/

set_option autoImplicit false

namespace ShopTraffic

/-! ## Leftovers of different users -/

namespace Backlog

theorem insertEntry_comm {c d : Carried} (h : c.user.id ≠ d.user.id) (entries : List Carried) :
    insertEntry c (insertEntry d entries) = insertEntry d (insertEntry c entries) := by
  have hnumber : c.user.id.number ≠ d.user.id.number := fun heq => h (UserId.ext_number heq)
  induction entries with
  | nil => grind [insertEntry]
  | cons e rest ih => grind [insertEntry]

theorem add_comm {c d : Carried} (h : c.user.id ≠ d.user.id) (b : Backlog) :
    (b.add c).add d = (b.add d).add c := by
  unfold add
  split
  · rfl
  · split
    · rfl
    · rw [insertEntry_comm h]

theorem absorb_add {c : Carried} {ds : List Carried} (h : ∀ d ∈ ds, c.user.id ≠ d.user.id)
    (b : Backlog) : (b.add c).absorb ds = (b.absorb ds).add c := by
  unfold absorb
  induction ds generalizing b with
  | nil => rfl
  | cons d ds ih =>
    obtain ⟨hd, hds⟩ := List.forall_mem_cons.1 h
    rw [List.foldl_cons, List.foldl_cons, add_comm hd, ih hds]

theorem absorb_comm {cs ds : List Carried} (h : ∀ c ∈ cs, ∀ d ∈ ds, c.user.id ≠ d.user.id)
    (b : Backlog) : (b.absorb cs).absorb ds = (b.absorb ds).absorb cs := by
  induction cs generalizing b with
  | nil => rfl
  | cons c cs ih =>
    obtain ⟨hc, hcs⟩ := List.forall_mem_cons.1 h
    calc ((b.absorb (c :: cs)).absorb ds)
        = ((b.add c).absorb cs).absorb ds := rfl
      _ = ((b.add c).absorb ds).absorb cs := ih hcs (b.add c)
      _ = ((b.absorb ds).add c).absorb cs := by rw [absorb_add hc]
      _ = (b.absorb ds).absorb (c :: cs) := rfl

end Backlog

/-! ## Joining tasks -/

/-- What a window has gathered from the tasks that are joined. -/
structure Joining where
  summary : WindowSummary
  backlog : Backlog := {}
  counts : Counts := {}

namespace Joining

/-- One task more is joined. -/
def join (j : Joining) (r : TaskReport) : Joining :=
  { summary := Streamer.joinSummary j.summary r
    backlog := j.backlog.absorb r.returned
    counts := j.counts.add (Streamer.taskCounts [r]) }

theorem joinSummary_comm (summary : WindowSummary) (r r' : TaskReport) :
    Streamer.joinSummary (Streamer.joinSummary summary r) r' =
      Streamer.joinSummary (Streamer.joinSummary summary r') r := by
  unfold Streamer.joinSummary
  split_ifs
  · simp only [Nat.add_right_comm]
  all_goals rfl

theorem counts_add_right_comm (a b c : Counts) : (a.add b).add c = (a.add c).add b := by
  unfold Counts.add
  simp only [Counts.mk.injEq]
  omega

/-- **Two tasks of different users** are joined in either order. -/
theorem join_comm {r r' : TaskReport}
    (h : ∀ c ∈ r.returned, ∀ d ∈ r'.returned, c.user.id ≠ d.user.id) (j : Joining) :
    (j.join r).join r' = (j.join r').join r := by
  unfold join
  simp only [Joining.mk.injEq]
  exact ⟨joinSummary_comm _ _ _, Backlog.absorb_comm h _, counts_add_right_comm _ _ _⟩

/-- **All tasks of different users** are joined in any order. -/
theorem foldl_join_perm {reports joined : List TaskReport} (hjoined : joined.Perm reports)
    (hdisjoint : reports.Pairwise fun r r' =>
      ∀ c ∈ r.returned, ∀ d ∈ r'.returned, c.user.id ≠ d.user.id) (j : Joining) :
    joined.foldl join j = reports.foldl join j := by
  -- Two different tasks commute, and a task commutes with itself.
  have hpairs : reports.Pairwise fun r r' =>
      ∀ j : Joining, (j.join r).join r' = (j.join r').join r :=
    hdisjoint.imp fun h j => join_comm h j
  have hcomm := hpairs.forall_of_forall_of_flip (fun _ _ _ => rfl)
    (hpairs.imp fun h j => (h j).symm)
  exact (hjoined.symm.foldl_eq' (fun r hr r' hr' j => hcomm hr hr' j) j).symm

theorem taskCounts_cons (r : TaskReport) (rest : List TaskReport) :
    Streamer.taskCounts (r :: rest) = (Streamer.taskCounts [r]).add (Streamer.taskCounts rest) := by
  unfold Streamer.taskCounts Counts.add
  rw [List.filterMap_cons, List.filterMap_cons, List.filterMap_nil, List.filter_cons,
    List.filter_cons, List.filter_nil]
  cases r.tally? <;> cases r.succeeded <;> simp [Nat.add_comm]

theorem counts_add_assoc (a b c : Counts) : (a.add b).add c = a.add (b.add c) := by
  unfold Counts.add
  simp only [Counts.mk.injEq]
  omega

/-- What joining tasks one after the other comes to. -/
theorem foldl_join (reports : List TaskReport) (j : Joining) :
    reports.foldl join j =
      { summary := reports.foldl Streamer.joinSummary j.summary
        backlog := reports.foldl (fun b r => b.absorb r.returned) j.backlog
        counts := j.counts.add (Streamer.taskCounts reports) } := by
  induction reports generalizing j with
  | nil => rfl
  | cons r rest ih =>
    rw [List.foldl_cons, ih, taskCounts_cons, ← counts_add_assoc]
    rfl

end Joining

/-! ## The tasks of a window -/

/-- The books without their notices. -/
def Books.withoutNotices (b : Books) : Books := { b with notices := #[] }

/-- A state without the notices in its books. -/
def StreamState.withoutNotices (st : StreamState) : StreamState :=
  { st with books := st.books.withoutNotices }

theorem StreamState.counts_withoutNotices (st : StreamState) :
    st.withoutNotices.books.counts = st.books.counts := rfl

namespace Streamer

section Orders

variable (s : Streamer) (around : Surroundings) (st : StreamState)

/-- The state in which a window joins its tasks. -/
def dispatched : StreamState :=
  ({ s.opened around st with
      source := (dispatch (s.shares (s.opened around st)) (s.opened around st).source).2
      backlog := {} } : StreamState).notify <|
    (s.shares (s.opened around st)).flatMap fun (_, intakes, generates) =>
      if generates then [] else [.carryDispatched (s.opening around st).index intakes.length]

/-- A window whose tasks are joined in the given order. -/
def joinedAs (joined : List TaskReport) : WindowRun :=
  s.close around (s.opening around st) (s.dispatched around st) (s.reports around st) joined

/-- What a window gathers from its tasks, joined in the given order. -/
def gathered (joined : List TaskReport) : Joining :=
  joined.foldl Joining.join
    { summary :=
        { index := (s.opening around st).index
          population := (s.dispatched around st).active.length
          tasks := (s.reports around st).length } }

theorem runWindow_eq_joinedAs :
    s.runWindow around st = s.joinedAs around st (joinOrder (s.reports around st)) := by
  unfold runWindow joinedAs dispatched
  rfl

/-- The end of a window is what the joins come to. -/
theorem joinedAs_gathered (joined : List TaskReport) :
    (s.joinedAs around st joined).state.backlog = (s.gathered around st joined).backlog ∧
      (s.joinedAs around st joined).summary =
        { (s.gathered around st joined).summary with
          carriedOut := (s.gathered around st joined).backlog.count } := by
  unfold gathered
  rw [Joining.foldl_join]
  exact ⟨rfl, rfl⟩

/-- Where the joins come to the same, windows differ in their notices alone. -/
theorem joinedAs_congr {joined joined' : List TaskReport}
    (h : s.gathered around st joined = s.gathered around st joined') :
    (s.joinedAs around st joined).state.withoutNotices =
      (s.joinedAs around st joined').state.withoutNotices := by
  unfold gathered at h
  rw [Joining.foldl_join, Joining.foldl_join, Joining.mk.injEq] at h
  have hbacklog : joinBacklog joined = joinBacklog joined' := h.2.1
  unfold joinedAs close StreamState.withoutNotices Books.withoutNotices StreamState.notify
  simp only [hbacklog]

variable {s around st}

/-- Tasks of different users return events of different users. -/
theorem returned_pairwise (h : (((s.tasks around st).flatMap (·.intakes)).map (·.user.id)).Nodup) :
    (s.reports around st).Pairwise fun r r' =>
      ∀ c ∈ r.returned, ∀ d ∈ r'.returned, c.user.id ≠ d.user.id := by
  have hof : ∀ t : Task, ∀ c ∈ (s.reportOf around st t).returned,
      c.user.id ∈ t.intakes.map (·.user.id) := by
    intro t c hc
    obtain ⟨i, hi, hplace⟩ := List.mem_map.1
      ((performed s around st t).returned_places.1.subset (List.mem_map_of_mem hc))
    exact List.mem_map.2 ⟨i, hi, congrArg Prod.fst hplace⟩
  rw [List.map_flatMap, List.nodup_flatMap] at h
  unfold reports
  rw [List.pairwise_map]
  refine h.2.imp fun {t t'} hdisjoint c hc d hd heq => ?_
  exact hdisjoint (hof t c hc) (heq ▸ hof t' d hd)

/-- **The order in which tasks are joined does not matter**: in a window whose tasks hold different
users, the joins come to the same backlog, summary and counts in every order, and the window leaves
the same state but for the order of its notices. -/
theorem runWindow_anyOrder
    (h : (((s.tasks around st).flatMap (·.intakes)).map (·.user.id)).Nodup)
    {joined : List TaskReport} (hjoined : joined.Perm (s.reports around st)) :
    s.gathered around st joined = s.gathered around st (s.reports around st) ∧
      (s.joinedAs around st joined).state.backlog = (s.runWindow around st).state.backlog ∧
      (s.joinedAs around st joined).summary = (s.runWindow around st).summary ∧
      (s.joinedAs around st joined).state.books.counts =
        (s.runWindow around st).state.books.counts ∧
      (s.joinedAs around st joined).state.withoutNotices =
        (s.runWindow around st).state.withoutNotices := by
  have hany : ∀ {joined : List TaskReport}, joined.Perm (s.reports around st) →
      s.gathered around st joined = s.gathered around st (s.reports around st) :=
    fun hjoined => Joining.foldl_join_perm hjoined (returned_pairwise h) _
  have hended : s.gathered around st joined =
      s.gathered around st (joinOrder (s.reports around st)) :=
    (hany hjoined).trans (hany (List.mergeSort_perm _ _)).symm
  obtain ⟨hbacklog, hsummary⟩ := joinedAs_gathered s around st joined
  obtain ⟨hbacklog', hsummary'⟩ :=
    joinedAs_gathered s around st (joinOrder (s.reports around st))
  have hstate := joinedAs_congr s around st hended
  rw [runWindow_eq_joinedAs]
  refine ⟨hany hjoined, ?_, ?_, ?_, hstate⟩
  · rw [hbacklog, hbacklog', hended]
  · rw [hsummary, hsummary', hended]
  · rw [← StreamState.counts_withoutNotices, hstate, StreamState.counts_withoutNotices]

end Orders

/-- The two shards of a window, joined in the opposite order. -/
theorem runWindow_anyOrder_twoShards :
    (((twoShards.tasks .twoEvents (twoShards.start .pair 0)).flatMap (·.intakes)).map
      (·.user.id)).Nodup ∧
    (∃ t₀ ∈ twoShards.tasks .twoEvents (twoShards.start .pair 0),
      ∃ t₁ ∈ twoShards.tasks .twoEvents (twoShards.start .pair 0), t₁ ≠ t₀) ∧
    (twoShards.joinedAs .twoEvents (twoShards.start .pair 0)
        (twoShards.reports .twoEvents (twoShards.start .pair 0)).reverse).summary =
      (twoShards.runWindow .twoEvents (twoShards.start .pair 0)).summary := by
  have hsound : (twoShards.opened .twoEvents (twoShards.start .pair 0)).Sound :=
    opened_sound (start_sound twoShards .pair 0)
  have hdistinct : (twoShards.opened .twoEvents (twoShards.start .pair 0)).population.Distinct := by
    show (Population.pair.users.toList.map (·.id)).Nodup
    decide
  have hids := allIntakes_ids_nodup (s := twoShards) hsound hdistinct
  rw [← task_intakes] at hids
  exact ⟨hids, twoShards_tasks, (runWindow_anyOrder hids (List.reverse_perm _)).2.2.1⟩

end Streamer

end ShopTraffic
