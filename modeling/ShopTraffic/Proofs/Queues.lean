import Mathlib
import ShopTraffic.Stream.Pacing

/-!
# Queues that are paced

What pacing does to queues, said once for a batch, for a tick and for many ticks, so that no later
proof opens the pacer again.

* `Queue.Hands` — one batch: what is handed over and what the queue keeps; `Queue.Drained` — the
  batches of one queue in order;
* `Served`, `serve_served` — one tick; `Paced` — ticks one after the other;
* `Paced.drained` — among queues of different users, the batches of one user drain its queue;
* `Paced.events` — handed over and left is all there was; `Served.serves_due` — a tick serves every
  queue that has something due.
-/

set_option autoImplicit false

namespace ShopTraffic

/-! ## Batches with what became of them -/

/-- Batches with what became of them, where a run may have broken off on the last one. -/
def attemptsOf (batches : List Batch) : Option Breakdown → List Attempt
  | none => batches.map (⟨·, true, true⟩)
  | some breakdown =>
    batches.dropLast.map (⟨·, true, true⟩) ++
      batches.getLast?.toList.map (⟨·, breakdown.answered, false⟩)

theorem Run.attempts_eq (r : Run) : r.attempts = attemptsOf r.batches.toList r.broken := by
  unfold Run.attempts
  cases r.broken <;> rfl

theorem attemptsOf_append (bs cs : List Batch) {broken : Option Breakdown}
    (h : broken.isSome → cs ≠ []) :
    attemptsOf (bs ++ cs) broken = attemptsOf bs none ++ attemptsOf cs broken := by
  cases broken with
  | none => simp [attemptsOf]
  | some breakdown =>
    have hne : cs ≠ [] := h rfl
    simp only [attemptsOf, List.dropLast_append_of_ne_nil hne, List.map_append, List.append_assoc,
      List.getLast?_append_of_ne_nil bs hne]

theorem attemptsOf_cons (b : Batch) (cs : List Batch) {broken : Option Breakdown}
    (h : broken.isSome → cs ≠ []) :
    attemptsOf (b :: cs) broken = ⟨b, true, true⟩ :: attemptsOf cs broken :=
  attemptsOf_append [b] cs h

theorem recorded_of_attemptsOf_none {bs : List Batch} {a : Attempt} (h : a ∈ attemptsOf bs none) :
    a.recorded := by
  simp only [attemptsOf, List.mem_map] at h
  obtain ⟨b, -, rfl⟩ := h
  rfl

/-- The batches for one user. -/
def attemptsFor (id : UserId) (as : List Attempt) : List Attempt := as.filter (·.batch.isFor id)

@[simp] theorem attemptsFor_nil (id : UserId) : attemptsFor id [] = [] := rfl

theorem attemptsFor_append (id : UserId) (as bs : List Attempt) :
    attemptsFor id (as ++ bs) = attemptsFor id as ++ attemptsFor id bs := by
  simp [attemptsFor]

theorem attemptsFor_cons_self {a : Attempt} {u : User} (h : a.batch.owner = some u)
    (as : List Attempt) : attemptsFor u.id (a :: as) = a :: attemptsFor u.id as := by
  simp [attemptsFor, Batch.isFor, h]

theorem attemptsFor_cons_of_ne {a : Attempt} {u : User} (h : a.batch.owner = some u) {id : UserId}
    (hne : u.id ≠ id) (as : List Attempt) : attemptsFor id (a :: as) = attemptsFor id as := by
  simp [attemptsFor, Batch.isFor, h, hne]

/-- The batches of a tick with what became of them. -/
def Tick.attempts (t : Tick) : List Attempt := attemptsOf t.batches t.broken

/-! ## One batch, the batches of a queue -/

/-- What tells users apart: the identity and the seat. -/
def User.place (u : User) : UserId × Nat := (u.id, u.seat)

/-- One batch of a queue: the events before the cut are handed over, the others stay. Only a batch
that is recorded counts for the user. -/
structure Queue.Hands (q : Queue) (a : Attempt) (q' : Queue) : Prop where
  owner : a.batch.owner = some q.user
  due : a.batch.events = q.events.takeWhile (·.time < a.batch.cut)
  nonempty : a.batch.events ≠ []
  left : q'.events = q.events.dropWhile (·.time < a.batch.cut)
  counted : if a.recorded then q.user.recordSent a.batch.events.length = .ok q'.user
    else q'.user = q.user

/-- Batches that a queue hands over one after the other, and the queue that is left. -/
inductive Queue.Drained : Queue → List Attempt → Queue → Prop
  | nil (q : Queue) : Drained q [] q
  | cons {q q₁ q₂ : Queue} {a : Attempt} {as : List Attempt} :
    q.Hands a q₁ → Drained q₁ as q₂ → Drained q (a :: as) q₂

namespace Queue

variable {q q₁ q₂ : Queue} {a : Attempt} {as bs : List Attempt}

/-- Nothing of a user but the count of sent events changes. -/
theorem Hands.user_eq (h : q.Hands a q₁) : q₁.user = { q.user with sent := q₁.user.sent } := by
  have hcounted := h.counted
  split at hcounted
  · obtain ⟨-, -, huser⟩ := User.recordSent_eq_ok_iff.1 hcounted
    rw [huser]
  · rw [hcounted]

theorem Hands.events (h : q.Hands a q₁) : a.batch.events ++ q₁.events = q.events := by
  rw [h.due, h.left, List.takeWhile_append_dropWhile]

theorem Drained.single (h : q.Hands a q₁) : q.Drained [a] q₁ := .cons h (.nil q₁)

theorem Drained.trans (h : q.Drained as q₁) (h' : q₁.Drained bs q₂) : q.Drained (as ++ bs) q₂ := by
  induction h with
  | nil q => exact h'
  | cons hands _ ih => exact .cons hands (ih h')

theorem Drained.user_eq (h : q.Drained as q₁) : q₁.user = { q.user with sent := q₁.user.sent } := by
  induction h with
  | nil q => rfl
  | cons hands _ ih => rw [ih, hands.user_eq]

theorem Drained.events (h : q.Drained as q₁) :
    (as.flatMap (·.batch.events)) ++ q₁.events = q.events := by
  induction h with
  | nil q => rfl
  | cons hands _ ih => rw [List.flatMap_cons, List.append_assoc, ih, hands.events]

end Queue

/-! ## One tick -/

/-- One tick at the reading `now`: queue by queue what is due is handed over, until a batch breaks
off. -/
inductive Served (now : Instant) : List Queue → List Attempt → List Queue → Prop
  | done : Served now [] [] []
  | pass {q : Queue} {rest rest' : List Queue} {as : List Attempt} :
    q.events.takeWhile (·.time < now) = [] → Served now rest as rest' →
    Served now (q :: rest) as (q :: rest')
  | hand {q q₁ : Queue} {a : Attempt} {rest rest' : List Queue} {as : List Attempt} :
    q.Hands a q₁ → a.batch.cut = now → a.recorded → Served now rest as rest' →
    Served now (q :: rest) (a :: as) (q₁ :: rest')
  | broke {q q₁ : Queue} {a : Attempt} {rest : List Queue} :
    q.Hands a q₁ → a.batch.cut = now → ¬ a.recorded → Served now (q :: rest) [a] (q₁ :: rest)

theorem serve_batches_ne_nil {sink : Sink} {clock : Clock} {now : Instant} {queues : List Queue}
    {elapsed : Nat} (h : (serve sink clock now queues elapsed).broken.isSome) :
    (serve sink clock now queues elapsed).batches ≠ [] := by
  induction queues generalizing elapsed with
  | nil => cases h
  | cons q rest ih =>
    unfold serve at h ⊢
    simp only at h ⊢
    split
    · rename_i hdue
      rw [if_pos hdue] at h
      exact ih h
    · split
      · exact List.cons_ne_nil _ _
      · split <;> exact List.cons_ne_nil _ _

/-- **What a tick does.** -/
theorem serve_served (sink : Sink) (clock : Clock) (now : Instant) (queues : List Queue)
    (elapsed : Nat) :
    Served now queues (serve sink clock now queues elapsed).attempts
      (serve sink clock now queues elapsed).queues := by
  induction queues generalizing elapsed with
  | nil => exact .done
  | cons q rest ih =>
    unfold serve
    simp only
    split
    · rename_i hdue
      exact .pass (List.isEmpty_iff.1 hdue) (ih elapsed)
    · rename_i hdue
      have hne : q.events.takeWhile (·.time < now) ≠ [] := fun h => hdue (List.isEmpty_iff.2 h)
      split
      · exact .broke ⟨rfl, rfl, hne, rfl, rfl⟩ rfl Bool.false_ne_true
      · split
        · exact .broke ⟨rfl, rfl, hne, rfl, rfl⟩ rfl Bool.false_ne_true
        · rename_i user hrecord
          unfold Tick.attempts
          simp only
          rw [attemptsOf_cons _ _ serve_batches_ne_nil]
          exact .hand ⟨rfl, rfl, hne, rfl, hrecord⟩ rfl rfl (ih _)

/-- The batches of a tick are handed over one after the other while it lasts. -/
theorem serve_moments (sink : Sink) (clock : Clock) (now : Instant) (queues : List Queue)
    (elapsed : Nat) :
    (serve sink clock now queues elapsed).batches.Pairwise (·.elapsed ≤ ·.elapsed) ∧
      ∀ b ∈ (serve sink clock now queues elapsed).batches,
        elapsed ≤ b.elapsed ∧ b.elapsed ≤ (serve sink clock now queues elapsed).elapsed := by
  induction queues generalizing elapsed with
  | nil => exact ⟨.nil, fun _ h => absurd h List.not_mem_nil⟩
  | cons q rest ih =>
    unfold serve
    simp only
    split
    · exact ih elapsed
    · split
      · refine ⟨List.pairwise_singleton _ _, fun b hb => ?_⟩
        rw [List.mem_singleton.1 hb]
        exact ⟨Nat.le_refl _, Nat.le_add_right _ _⟩
      · split
        · refine ⟨List.pairwise_singleton _ _, fun b hb => ?_⟩
          rw [List.mem_singleton.1 hb]
          exact ⟨Nat.le_refl _, Nat.le_add_right _ _⟩
        · simp only
          generalize hd : elapsed + sink.latency _ = next
          obtain ⟨hpair, hbounds⟩ := ih next
          have hle := serve_elapsed_le sink clock now rest next
          refine ⟨List.pairwise_cons.2 ⟨fun b hb => ?_, hpair⟩, fun b hb => ?_⟩
          · have := (hbounds b hb).1
            simp only
            omega
          · rcases List.mem_cons.1 hb with rfl | hb
            · exact ⟨Nat.le_refl _, by simp only; omega⟩
            · have := hbounds b hb
              omega

theorem serve_cut {sink : Sink} {clock : Clock} {now : Instant} {queues : List Queue}
    {elapsed : Nat} {b : Batch} (h : b ∈ (serve sink clock now queues elapsed).batches) :
    b.cut = now := by
  induction queues generalizing elapsed with
  | nil => cases h
  | cons q rest ih =>
    unfold serve at h
    simp only at h
    split at h
    · exact ih h
    · split at h
      · rw [List.mem_singleton.1 h]
      · split at h
        · rw [List.mem_singleton.1 h]
        · rcases List.mem_cons.1 h with rfl | h
          · rfl
          · exact ih h

namespace Served

variable {now : Instant} {qs qs' : List Queue} {as : List Attempt}

theorem places (h : Served now qs as qs') : qs'.map (·.user.place) = qs.map (·.user.place) := by
  induction h with
  | done => rfl
  | pass _ _ ih => rw [List.map_cons, List.map_cons, ih]
  | hand hands _ _ _ ih => rw [List.map_cons, List.map_cons, ih, hands.user_eq]; rfl
  | broke hands _ _ => rw [List.map_cons, List.map_cons, hands.user_eq]; rfl

theorem ids (h : Served now qs as qs') : qs'.map (·.user.id) = qs.map (·.user.id) := by
  simpa [Function.comp_def, User.place] using congrArg (List.map Prod.fst) h.places

theorem owner (h : Served now qs as qs') {a : Attempt} (ha : a ∈ as) :
    ∃ q ∈ qs, a.batch.owner = some q.user := by
  induction h with
  | done => cases ha
  | pass _ _ ih =>
    obtain ⟨q, hq, howner⟩ := ih ha
    exact ⟨q, List.mem_cons_of_mem _ hq, howner⟩
  | hand hands _ _ _ ih =>
    rcases List.mem_cons.1 ha with rfl | ha
    · exact ⟨_, List.mem_cons_self, hands.owner⟩
    · obtain ⟨q, hq, howner⟩ := ih ha
      exact ⟨q, List.mem_cons_of_mem _ hq, howner⟩
  | broke hands _ _ =>
    rw [List.mem_singleton.1 ha]
    exact ⟨_, List.mem_cons_self, hands.owner⟩

/-- No batch of a tick is empty. -/
theorem nonempty (h : Served now qs as qs') : ∀ a ∈ as, a.batch.events ≠ [] := by
  induction h with
  | done => exact fun _ ha => absurd ha List.not_mem_nil
  | pass _ _ ih => exact ih
  | hand hands _ _ _ ih => exact List.forall_mem_cons.2 ⟨hands.nonempty, ih⟩
  | broke hands _ _ =>
    exact List.forall_mem_cons.2 ⟨hands.nonempty, fun _ ha => absurd ha List.not_mem_nil⟩

/-- No batch of a tick is for a user without a queue. -/
theorem attemptsFor_eq_nil (h : Served now qs as qs') {id : UserId}
    (hid : id ∉ qs.map (·.user.id)) : attemptsFor id as = [] := by
  unfold attemptsFor
  rw [List.filter_eq_nil_iff]
  intro a ha hfor
  obtain ⟨q, hq, howner⟩ := h.owner ha
  simp only [Batch.isFor, howner, Option.any_some, decide_eq_true_eq] at hfor
  exact hid (List.mem_map.2 ⟨q, hq, hfor⟩)

/-- Queues of other users do not see a batch. -/
theorem skip {q : Queue} {a : Attempt} {rest rest' : List Queue} {as : List Attempt}
    (howner : a.batch.owner = some q.user) (hid : q.user.id ∉ rest.map (·.user.id))
    (h : List.Forall₂ (fun r r' => r.Drained (attemptsFor r.user.id as) r') rest rest') :
    List.Forall₂ (fun r r' => r.Drained (attemptsFor r.user.id (a :: as)) r') rest rest' := by
  rw [List.forall₂_iff_get] at h ⊢
  refine ⟨h.1, fun i hi hi' => ?_⟩
  have hne : q.user.id ≠ (rest.get ⟨i, hi⟩).user.id :=
    fun heq => hid (heq ▸ List.mem_map_of_mem (List.get_mem rest _))
  rw [attemptsFor_cons_of_ne howner hne]
  exact h.2 i hi hi'

/-- Among queues of different users, the batches of a tick for one user drain its queue. -/
theorem drained (h : Served now qs as qs') (hnd : (qs.map (·.user.id)).Nodup) :
    List.Forall₂ (fun q q' => q.Drained (attemptsFor q.user.id as) q') qs qs' := by
  induction h with
  | done => exact .nil
  | pass _ hrest ih =>
    obtain ⟨hid, hnd⟩ := List.nodup_cons.1 hnd
    refine .cons ?_ (ih hnd)
    rw [hrest.attemptsFor_eq_nil hid]
    exact .nil _
  | hand hands _ _ hrest ih =>
    obtain ⟨hid, hnd⟩ := List.nodup_cons.1 hnd
    refine .cons ?_ (skip hands.owner hid (ih hnd))
    rw [attemptsFor_cons_self hands.owner, hrest.attemptsFor_eq_nil hid]
    exact .single hands
  | broke hands _ _ =>
    obtain ⟨hid, hnd⟩ := List.nodup_cons.1 hnd
    refine .cons ?_ (skip hands.owner hid (List.forall₂_same.2 fun _ _ => .nil _))
    rw [attemptsFor_cons_self hands.owner]
    exact .single hands

/-- A tick moves events from the queues to the batches and does nothing else to them. -/
theorem events (h : Served now qs as qs') :
    ((as.flatMap (·.batch.events) : List Event) : Multiset Event) + queuedEvents qs' =
      queuedEvents qs := by
  unfold queuedEvents
  induction h with
  | done => rfl
  | pass _ _ ih =>
    simp only [List.flatMap_cons, ← Multiset.coe_add, ← ih]
    abel
  | hand hands _ _ _ ih =>
    simp only [List.flatMap_cons, ← Multiset.coe_add, ← ih, ← hands.events]
    abel
  | broke hands _ _ =>
    simp only [List.flatMap_cons, List.flatMap_nil, List.append_nil, ← Multiset.coe_add,
      ← hands.events]
    abel

/-- A tick whose batches are all recorded serves every queue that has something due. -/
theorem serves_due (h : Served now qs as qs') (hall : ∀ a ∈ as, a.recorded) {q : Queue}
    (hq : q ∈ qs) (hdue : q.events.takeWhile (·.time < now) ≠ []) :
    ∃ a ∈ as, a.batch.owner = some q.user ∧ a.batch.cut = now ∧
      a.batch.events = q.events.takeWhile (·.time < now) := by
  induction h with
  | done => cases hq
  | pass hnone _ ih =>
    rcases List.mem_cons.1 hq with rfl | hq
    · exact absurd hnone hdue
    · exact ih hall hq
  | hand hands hcut _ _ ih =>
    rcases List.mem_cons.1 hq with rfl | hq
    · exact ⟨_, List.mem_cons_self, hands.owner, hcut, hcut ▸ hands.due⟩
    · obtain ⟨a, ha, hrest⟩ := ih (fun a ha => hall a (List.mem_cons_of_mem _ ha)) hq
      exact ⟨a, List.mem_cons_of_mem _ ha, hrest⟩
  | broke _ _ hnot => exact absurd (hall _ List.mem_cons_self) hnot

end Served

/-! ## A whole run -/

/-- Ticks one after the other. -/
inductive Paced : List Queue → List Attempt → List Queue → Prop
  | rest (qs : List Queue) : Paced qs [] qs
  | tick {now : Instant} {qs qs₁ qs₂ : List Queue} {as bs : List Attempt} :
    Served now qs as qs₁ → Paced qs₁ bs qs₂ → Paced qs (as ++ bs) qs₂

/-- Two stretches of pacing drain every queue one after the other. -/
theorem forall₂_drained_append {as bs : List Attempt} {qs qs₁ qs₂ : List Queue}
    (h : List.Forall₂ (fun q q' => q.Drained (attemptsFor q.user.id as) q') qs qs₁)
    (h' : List.Forall₂ (fun q q' => q.Drained (attemptsFor q.user.id bs) q') qs₁ qs₂) :
    List.Forall₂ (fun q q' => q.Drained (attemptsFor q.user.id (as ++ bs)) q') qs qs₂ := by
  induction h generalizing qs₂ with
  | nil => cases h'; exact .nil
  | cons drained _ ih =>
    cases h' with
    | cons drained' rest' =>
      refine .cons ?_ (ih rest')
      rw [attemptsFor_append]
      rw [drained.user_eq] at drained'
      exact drained.trans drained'

namespace Paced

variable {qs qs' : List Queue} {as : List Attempt}

theorem places (h : Paced qs as qs') : qs'.map (·.user.place) = qs.map (·.user.place) := by
  induction h with
  | rest qs => rfl
  | tick served _ ih => rw [ih, served.places]

theorem ids (h : Paced qs as qs') : qs'.map (·.user.id) = qs.map (·.user.id) := by
  simpa [Function.comp_def, User.place] using congrArg (List.map Prod.fst) h.places

theorem seats (h : Paced qs as qs') : qs'.map (·.user.seat) = qs.map (·.user.seat) := by
  simpa [Function.comp_def, User.place] using congrArg (List.map Prod.snd) h.places

theorem owner_place (h : Paced qs as qs') {a : Attempt} (ha : a ∈ as) :
    ∃ u, a.batch.owner = some u ∧ u.place ∈ qs.map (·.user.place) := by
  induction h with
  | rest qs => cases ha
  | tick served _ ih =>
    rcases List.mem_append.1 ha with ha | ha
    · obtain ⟨q, hq, howner⟩ := served.owner ha
      exact ⟨q.user, howner, List.mem_map_of_mem hq⟩
    · rw [← served.places]
      exact ih ha

theorem nonempty (h : Paced qs as qs') : ∀ a ∈ as, a.batch.events ≠ [] := by
  induction h with
  | rest qs => exact fun _ ha => absurd ha List.not_mem_nil
  | tick served _ ih => exact List.forall_mem_append.2 ⟨served.nonempty, ih⟩

theorem attemptsFor_eq_nil (h : Paced qs as qs') {id : UserId} (hid : id ∉ qs.map (·.user.id)) :
    attemptsFor id as = [] := by
  induction h with
  | rest qs => rfl
  | tick served _ ih =>
    rw [attemptsFor_append, served.attemptsFor_eq_nil hid, ih (by rwa [served.ids])]
    rfl

/-- **Among queues of different users, the batches of a run for one user drain its queue.** -/
theorem drained (h : Paced qs as qs') (hnd : (qs.map (·.user.id)).Nodup) :
    List.Forall₂ (fun q q' => q.Drained (attemptsFor q.user.id as) q') qs qs' := by
  induction h with
  | rest qs => exact List.forall₂_same.2 fun q _ => .nil q
  | tick served _ ih =>
    exact forall₂_drained_append (served.drained hnd) (ih (by rwa [served.ids]))

/-- **What is handed over and what is left is all there was.** -/
theorem events (h : Paced qs as qs') :
    ((as.flatMap (·.batch.events) : List Event) : Multiset Event) + queuedEvents qs' =
      queuedEvents qs := by
  induction h with
  | rest qs => simp
  | tick served _ ih =>
    rw [← served.events, ← ih, List.flatMap_append, ← Multiset.coe_add]
    abel

end Paced

end ShopTraffic
