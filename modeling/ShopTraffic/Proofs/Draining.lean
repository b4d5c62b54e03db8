import Mathlib
import ShopTraffic.Proofs.Queues

/-!
# Queues that are drained

What holds of a queue and its batches while it is drained, whichever way its run goes.

* `InOrder`, `Queue.Drained.ordered` — batches of an ordered queue lie strictly one after the other;
* `Queue.Counted`, `Queue.Drained.counts` — a user counts what is left of its queue;
* `Queue.Fits`, `Paced.fits` — windows that hold their queues never send more than they hold.
-/

set_option autoImplicit false

namespace ShopTraffic

/-! ## Ordered queues -/

/-- All events of one batch lie strictly before all of another. -/
def Batch.Before (b c : Batch) : Prop := ∀ x ∈ b.events, ∀ y ∈ c.events, x.time < y.time

/-- A batch with events, in the order of their times, all before the reading at which it was cut. -/
structure Batch.Proper (b : Batch) : Prop where
  nonempty : b.events ≠ []
  ordered : TimeOrdered b.events
  due : ∀ e ∈ b.events, e.time < b.cut

/-- Batches of one user in order, and behind them events that wait: every batch is proper, and all
of it lies strictly before all that comes later. -/
structure InOrder (batches : List Batch) (left : List Event) : Prop where
  proper : ∀ b ∈ batches, b.Proper
  strict : batches.Pairwise Batch.Before
  ordered : TimeOrdered left
  before : ∀ b ∈ batches, ∀ x ∈ b.events, ∀ y ∈ left, x.time < y.time

namespace InOrder

variable {b : Batch} {bs cs : List Batch} {left left' : List Event}

theorem nothing (h : TimeOrdered left) : InOrder [] left :=
  ⟨fun _ hb => absurd hb List.not_mem_nil, .nil, h, fun _ hb => absurd hb List.not_mem_nil⟩

/-- Later batches are put behind earlier ones that lie before all of them. -/
theorem append (h : InOrder bs left) (h' : InOrder cs left')
    (hbatches : ∀ b ∈ bs, ∀ x ∈ b.events, ∀ c ∈ cs, ∀ y ∈ c.events, x.time < y.time)
    (hleft : ∀ b ∈ bs, ∀ x ∈ b.events, ∀ y ∈ left', x.time < y.time) :
    InOrder (bs ++ cs) left' := by
  refine ⟨fun b hb => ?_, ?_, h'.ordered, fun b hb => ?_⟩
  · exact (List.mem_append.1 hb).elim (h.proper b) (h'.proper b)
  · exact List.pairwise_append.2
      ⟨h.strict, h'.strict, fun b hb c hc x hx y hy => hbatches b hb x hx c hc y hy⟩
  · exact (List.mem_append.1 hb).elim (hleft b) (h'.before b)

theorem cons (hb : b.Proper) (h : InOrder cs left)
    (hbatches : ∀ x ∈ b.events, ∀ c ∈ cs, ∀ y ∈ c.events, x.time < y.time)
    (hleft : ∀ x ∈ b.events, ∀ y ∈ left, x.time < y.time) : InOrder (b :: cs) left :=
  ⟨List.forall_mem_cons.2 ⟨hb, h.proper⟩,
    List.pairwise_cons.2 ⟨fun c hc x hx y hy => hbatches x hx c hc y hy, h.strict⟩, h.ordered,
    List.forall_mem_cons.2 ⟨hleft, h.before⟩⟩

/-- What waits may be put in another order, as long as it is one of time. -/
theorem of_perm (h : InOrder bs left) (hperm : left'.Perm left) (hleft : TimeOrdered left') :
    InOrder bs left' :=
  ⟨h.proper, h.strict, hleft, fun b hb x hx y hy => h.before b hb x hx y (hperm.mem_iff.1 hy)⟩

end InOrder

namespace Queue

variable {q q₁ : Queue} {a : Attempt} {as : List Attempt}

theorem not_lt_of_mem_dropWhile {now : Instant} {events : List Event} (h : TimeOrdered events)
    {e : Event} (he : e ∈ events.dropWhile (·.time < now)) : now ≤ e.time := by
  induction events with
  | nil => cases he
  | cons x rest ih =>
    obtain ⟨hx, hrest⟩ := List.pairwise_cons.1 h
    rw [List.dropWhile_cons] at he
    split at he
    · exact ih hrest he
    · rename_i hnot
      simp only [decide_eq_true_eq, Instant.lt_def] at hnot
      rw [Instant.le_def]
      rcases List.mem_cons.1 he with rfl | he
      · omega
      · have := hx e he
        rw [Instant.le_def] at this
        omega

theorem Hands.ordered (h : q.Hands a q₁) (hq : TimeOrdered q.events) :
    a.batch.Proper ∧ TimeOrdered q₁.events ∧
      ∀ x ∈ a.batch.events, ∀ y ∈ q₁.events, x.time < y.time := by
  have hdue : ∀ e ∈ a.batch.events, e.time < a.batch.cut := fun e he => by
    rw [h.due] at he
    simpa using List.mem_takeWhile_imp he
  refine ⟨⟨h.nonempty, ?_, hdue⟩, ?_, fun x hx y hy => ?_⟩
  · rw [h.due]
    exact hq.sublist (List.takeWhile_sublist _)
  · rw [h.left]
    exact hq.sublist (List.dropWhile_sublist _)
  · rw [h.left] at hy
    exact Instant.lt_of_lt_of_le (hdue x hx) (not_lt_of_mem_dropWhile hq hy)

/-- **Batches of an ordered queue stand in order, and before what is left.** -/
theorem Drained.ordered (h : q.Drained as q₁) (hq : TimeOrdered q.events) :
    InOrder (as.map (·.batch)) q₁.events := by
  induction h with
  | nil q => exact .nothing hq
  | cons hands drained ih =>
    obtain ⟨hproper, hleft, hstrict⟩ := hands.ordered hq
    have hevents := drained.events
    refine .cons hproper (ih hleft) (fun x hx c hc y hy => ?_) fun x hx y hy => ?_
    · refine hstrict x hx y ?_
      obtain ⟨a, ha, rfl⟩ := List.mem_map.1 hc
      rw [← hevents]
      exact List.mem_append_left _ (List.mem_flatMap.2 ⟨a, ha, hy⟩)
    · refine hstrict x hx y ?_
      rw [← hevents]
      exact List.mem_append_right _ hy

/-! ## Counted queues -/

/-- The user counts exactly the events of the queue as still to be sent. -/
def Counted (q : Queue) : Prop := q.user.total = q.user.sent + q.events.length

theorem counted_beginWindow (u : User) (events : List Event) :
    Counted ⟨u.beginWindow events.length, events⟩ := by
  simp [Counted, User.beginWindow]

theorem Counted.unsent (h : q.Counted) : q.user.unsent = q.events.length := by
  unfold User.unsent
  rw [h]
  omega

/-- The window of the user holds at least the queue. -/
def Fits (q : Queue) : Prop := q.user.sent + q.events.length ≤ q.user.total

theorem Counted.fits (h : q.Counted) : q.Fits := Nat.le_of_eq h.symm

theorem Hands.fits (h : q.Hands a q₁) (hq : q.Fits) :
    q.user.sent + a.batch.events.length ≤ q.user.total ∧ q₁.Fits := by
  have hlength := congrArg List.length h.events
  have hcounted := h.counted
  unfold Fits at hq ⊢
  rw [List.length_append] at hlength
  split at hcounted
  · obtain ⟨-, -, huser⟩ := User.recordSent_eq_ok_iff.1 hcounted
    rw [huser]
    simp only
    omega
  · rw [hcounted]
    omega

theorem Hands.counts (h : q.Hands a q₁) (hrecorded : a.recorded) (hq : q.Counted) :
    q₁.Counted := by
  have hlength := congrArg List.length h.events
  have hcounted := h.counted
  rw [if_pos hrecorded] at hcounted
  obtain ⟨-, -, huser⟩ := User.recordSent_eq_ok_iff.1 hcounted
  unfold Counted at hq ⊢
  rw [List.length_append] at hlength
  rw [huser]
  simp only
  omega

/-- A window that holds its queue never has more sent than it holds. -/
theorem Drained.fits (h : q.Drained as q₁) (hq : q.Fits) : q₁.Fits := by
  induction h with
  | nil q => exact hq
  | cons hands _ ih => exact ih (hands.fits hq).2

/-- While every batch is recorded a counted queue stays counted. -/
theorem Drained.counts (h : q.Drained as q₁) (hrecorded : ∀ a ∈ as, a.recorded) (hq : q.Counted) :
    q₁.Counted := by
  induction h with
  | nil q => exact hq
  | cons hands _ ih =>
    obtain ⟨ha, has⟩ := List.forall_mem_cons.1 hrecorded
    exact ih has (hands.counts ha hq)

end Queue

/-- The window of a batch's user holds what is sent before it and the batch. -/
def Batch.Fits (b : Batch) : Prop := ∃ u, b.owner = some u ∧ u.sent + b.events.length ≤ u.total

theorem Served.fits {now : Instant} {qs qs' : List Queue} {as : List Attempt}
    (h : Served now qs as qs') (hqs : ∀ q ∈ qs, q.Fits) :
    (∀ a ∈ as, a.batch.Fits) ∧ ∀ q ∈ qs', q.Fits := by
  induction h with
  | done => exact ⟨fun _ h => absurd h List.not_mem_nil, hqs⟩
  | pass _ _ ih =>
    obtain ⟨hq, hrest⟩ := List.forall_mem_cons.1 hqs
    exact ⟨(ih hrest).1, List.forall_mem_cons.2 ⟨hq, (ih hrest).2⟩⟩
  | hand hands _ _ _ ih =>
    obtain ⟨hq, hrest⟩ := List.forall_mem_cons.1 hqs
    obtain ⟨hsent, hleft⟩ := hands.fits hq
    exact ⟨List.forall_mem_cons.2 ⟨⟨_, hands.owner, hsent⟩, (ih hrest).1⟩,
      List.forall_mem_cons.2 ⟨hleft, (ih hrest).2⟩⟩
  | broke hands _ _ =>
    obtain ⟨hq, hrest⟩ := List.forall_mem_cons.1 hqs
    obtain ⟨hsent, hleft⟩ := hands.fits hq
    exact ⟨fun a ha => List.mem_singleton.1 ha ▸ ⟨_, hands.owner, hsent⟩,
      List.forall_mem_cons.2 ⟨hleft, hrest⟩⟩

/-- **Windows that hold their queues never send more than they hold.** -/
theorem Paced.fits {qs qs' : List Queue} {as : List Attempt} (h : Paced qs as qs')
    (hqs : ∀ q ∈ qs, q.Fits) : (∀ a ∈ as, a.batch.Fits) ∧ ∀ q ∈ qs', q.Fits := by
  induction h with
  | rest qs => exact ⟨fun _ h => absurd h List.not_mem_nil, hqs⟩
  | tick served _ ih =>
    obtain ⟨hfirst, hmiddle⟩ := served.fits hqs
    obtain ⟨hlater, hlast⟩ := ih hmiddle
    exact ⟨fun a ha => (List.mem_append.1 ha).elim (hfirst a) (hlater a), hlast⟩

end ShopTraffic
