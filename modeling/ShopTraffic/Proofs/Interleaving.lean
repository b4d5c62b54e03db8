import Mathlib
import ShopTraffic.Proofs.Log

/-!
# Deliveries of several senders

The tasks of a window hand over their batches side by side and share one counter. Whoever is about to
hand a batch over takes the next number, tells of it if it is a multiple, and then hands the batch
over; between these three moments any other sender may act. What comes of it, an answer, a failure or
a crash, changes nothing that is shared. So numbers need not be handed over in the order in which they
are taken, but every number is used once, and a user's numbers stay in order as long as one sender
alone has its batches.

* `Sequenced` — deliveries under the numbers from 1 on, those of a user in order;
* `Sender.Acts`, `Traffic.Step` — what one sender does, and one of many; `Ledger.Passes` — senders at
  work until nothing is left;
* `Traffic.Sound`, `Step.sound` — what every step preserves; `Passes.sound` — what senders leave;
* `Merges`, `passes_of_merges` — every merge of the batches is a way in which they can be handed over;
  `passes_overtaking` — and there are others.
-/

set_option autoImplicit false

namespace ShopTraffic

/-- Two batches hold events of one user. -/
def Batch.Shares (b b' : Batch) : Prop := ∃ id, b.isFor id ∧ b'.isFor id

/-- Deliveries in sequence, with the numbers that were told. -/
structure Sequenced (every : Nat) (handed : List Sent) (lines : List Nat) : Prop where
  /-- The numbers are 1, 2 and so on, each of one batch. -/
  numbers : (handed.map (·.number)).Perm (List.range' 1 handed.length)
  /-- The numbers of a user grow in the order of its deliveries. -/
  users : ∀ id, (handed.filter (·.batch.isFor id)).Pairwise (·.number < ·.number)
  /-- The multiples are told, each once. -/
  progress : lines.Perm ((List.range' 1 handed.length).filter (· % max every 1 = 0))

/-! ## Batches numbered in order -/

theorem map_number_numberFrom (issued : Nat) (batches : List Batch) :
    (numberFrom issued batches).map (·.number) = List.range' (issued + 1) batches.length := by
  induction batches generalizing issued with
  | nil => rfl
  | cons b rest ih => rw [numberFrom_cons, List.map_cons, ih, List.length_cons, List.range'_succ]

/-- Batches that are numbered in the order in which they are handed over are in sequence. -/
theorem sequenced_numberFrom (every : Nat) (batches : List Batch) :
    Sequenced every (numberFrom 0 batches)
      ((List.range' 1 batches.length).filter (· % max every 1 = 0)) := by
  have hnumbers := map_number_numberFrom 0 batches
  constructor
  · rw [hnumbers, length_numberFrom]
  · intro id
    have hordered : ((numberFrom 0 batches).map (·.number)).Pairwise (· < ·) := by
      rw [hnumbers]
      exact List.pairwise_lt_range'
    exact (List.pairwise_map.1 hordered).sublist List.filter_sublist
  · rw [length_numberFrom]

/-! ## Senders -/

/-- How far a sender is with the batch that it hands over. -/
inductive Flight where
  | idle
  /-- A number is taken. -/
  | numbered (d : Sent)
  /-- The number is told, if it is a multiple. -/
  | told (d : Sent)

namespace Flight

/-- The batch with its number. -/
def sent : Flight → List Sent
  | .idle => []
  | .numbered d | .told d => [d]

/-- The batch whose number has been told. -/
def announced : Flight → List Sent
  | .told d => [d]
  | _ => []

end Flight

/-- A task that hands over its batches one after the other. -/
structure Sender where
  flight : Flight
  waiting : List Batch

/-- The batches that a sender has not handed over. -/
def Sender.batches (s : Sender) : List Batch := s.flight.sent.map (·.batch) ++ s.waiting

/-- What senders share. -/
structure Ledger where
  /-- Numbers taken so far. -/
  issued : Nat := 0
  notices : List Notice := []
  /-- The batches under their numbers, in the order in which they were handed over. -/
  handed : List Sent := []

/-- The numbers that were told. -/
def Ledger.lines (l : Ledger) : List Nat := l.notices.filterMap Notice.progress?

/-- What is told of a delivery: its number, if it is a multiple. -/
def Sent.lines (every : Nat) (d : Sent) : List Nat :=
  (progressNotice every d.number).filterMap Notice.progress?

/-- What a sender does next. -/
inductive Sender.Acts (every : Nat) : Ledger → Sender → Ledger → Sender → Prop
  | number (l : Ledger) (b : Batch) (rest : List Batch) :
    Acts every l ⟨.idle, b :: rest⟩ { l with issued := l.issued + 1 }
      ⟨.numbered ⟨l.issued + 1, b⟩, rest⟩
  | tell (l : Ledger) (d : Sent) (rest : List Batch) :
    Acts every l ⟨.numbered d, rest⟩
      { l with notices := l.notices ++ progressNotice every d.number } ⟨.told d, rest⟩
  | hand (l : Ledger) (d : Sent) (rest : List Batch) :
    Acts every l ⟨.told d, rest⟩ { l with handed := l.handed ++ [d] } ⟨.idle, rest⟩

/-- Senders at work. -/
structure Traffic where
  ledger : Ledger
  senders : List Sender

/-- One of the senders acts. -/
inductive Traffic.Step (every : Nat) : Traffic → Traffic → Prop
  | act {l l' : Ledger} {s s' : Sender} (pre post : List Sender) :
    Sender.Acts every l s l' s' → Step every ⟨l, pre ++ s :: post⟩ ⟨l', pre ++ s' :: post⟩

/-- No user has batches in both lists. -/
def Apart (bs bs' : List Batch) : Prop := ∀ b ∈ bs, ∀ b' ∈ bs', ¬ b.Shares b'

/-! ## What every step preserves -/

namespace Traffic

/-- Every number taken is handed over or on its way, those told are the multiples among them, and a
user's numbers are in order, as one sender alone has its batches. -/
structure Sound (every : Nat) (t : Traffic) : Prop where
  numbers : ((t.ledger.handed.map (·.number) : List Nat) : Multiset Nat) +
      (t.senders.flatMap fun s => s.flight.sent.map (·.number) : List Nat) =
    (List.range' 1 t.ledger.issued : List Nat)
  told : (t.ledger.lines : Multiset Nat) = (t.ledger.handed.flatMap (·.lines every) : List Nat) +
    (t.senders.flatMap fun s => s.flight.announced.flatMap (·.lines every) : List Nat)
  ordered : t.ledger.handed.Pairwise fun a b => a.batch.Shares b.batch → a.number < b.number
  above : ∀ s ∈ t.senders, ∀ d ∈ s.flight.sent, ∀ a ∈ t.ledger.handed,
    a.batch.Shares d.batch → a.number < d.number
  apart : (t.senders.map (·.batches)).Pairwise Apart

/-- What is handed over and what is not. -/
def batches (t : Traffic) : Multiset Batch :=
  (t.ledger.handed.map (·.batch) : List Batch) + (t.senders.flatMap (·.batches) : List Batch)

variable {every : Nat} {t t' : Traffic}

/-- What the senders have is what one of them has and what the others have. -/
theorem coe_flatMap_senders {α : Type} (f : Sender → List α) (pre : List Sender) (s : Sender)
    (post : List Sender) :
    (((pre ++ s :: post).flatMap f : List α) : Multiset α) =
      (f s : Multiset α) + ((pre ++ post).flatMap f : List α) := by
  simp only [List.flatMap_append, List.flatMap_cons, ← Multiset.coe_add]
  abel

/-- No step loses a batch. -/
theorem Step.batches_eq (h : Step every t t') : t'.batches = t.batches := by
  cases h with
  | act pre post hacts =>
    unfold batches
    rw [coe_flatMap_senders, coe_flatMap_senders]
    cases hacts with
    | number b rest => rfl
    | tell d rest => rfl
    | hand d rest =>
      simp only [Sender.batches, Flight.sent, List.map_append, List.map_cons, List.map_nil,
        ← Multiset.coe_add]
      abel

/-- A number that is handed over has been taken. -/
theorem Sound.number_le (h : t.Sound every) {a : Sent} (ha : a ∈ t.ledger.handed) :
    a.number ≤ t.ledger.issued := by
  have hmem : a.number ∈ ((t.ledger.handed.map (·.number) : List Nat) : Multiset Nat) +
      (t.senders.flatMap fun s => s.flight.sent.map (·.number) : List Nat) :=
    Multiset.mem_add.2 (.inl (Multiset.mem_coe.2 (List.mem_map_of_mem ha)))
  rw [h.numbers, Multiset.mem_coe, List.mem_range'_1] at hmem
  omega

/-- Senders stay apart as long as the one that acts gets no batches. -/
theorem apart_act {s s' : Sender} {pre post : List Sender}
    (h : ((pre ++ s :: post).map (·.batches)).Pairwise Apart) (hs : s'.batches ⊆ s.batches) :
    ((pre ++ s' :: post).map (·.batches)).Pairwise Apart := by
  rw [List.map_append, List.map_cons, List.pairwise_append, List.pairwise_cons] at h ⊢
  obtain ⟨hpre, ⟨hpost, hposts⟩, hacross⟩ := h
  refine ⟨hpre, ⟨fun bs hbs b hb => hpost bs hbs b (hs hb), hposts⟩, ?_⟩
  intro bs hbs bs' hbs'
  rcases List.mem_cons.1 hbs' with rfl | hbs'
  · exact fun b hb b' hb' => hacross bs hbs _ (List.mem_cons_self ..) b hb b' (hs hb')
  · exact hacross bs hbs bs' (List.mem_cons_of_mem _ hbs')

/-- No other sender has a batch of a user that the one that acts has a batch of. -/
theorem not_shares_of_apart {s s' : Sender} {pre post : List Sender}
    (h : ((pre ++ s :: post).map (·.batches)).Pairwise Apart) (hs' : s' ∈ pre ++ post) {b b' : Batch}
    (hb : b ∈ s.batches) (hb' : b' ∈ s'.batches) : ¬ b.Shares b' := by
  rw [List.map_append, List.map_cons, List.pairwise_append, List.pairwise_cons] at h
  obtain ⟨-, ⟨hpost, -⟩, hacross⟩ := h
  rcases List.mem_append.1 hs' with hs' | hs'
  · rintro ⟨id, hid, hid'⟩
    exact hacross _ (List.mem_map_of_mem hs') _ (List.mem_cons_self ..) b' hb' b hb ⟨id, hid', hid⟩
  · exact hpost _ (List.mem_map_of_mem hs') b hb b' hb'

/-- One of the senders is the one that acts or another. -/
theorem forall_senders {P : Sender → Prop} {s : Sender} {pre post : List Sender} (hs : P s)
    (hothers : ∀ s' ∈ pre ++ post, P s') : ∀ s' ∈ pre ++ s :: post, P s' := by
  intro s' hs'
  rcases List.mem_append.1 hs' with hs' | hs'
  · exact hothers s' (List.mem_append_left _ hs')
  · rcases List.mem_cons.1 hs' with rfl | hs'
    · exact hs
    · exact hothers s' (List.mem_append_right _ hs')

/-- **What every step preserves.** -/
theorem Step.sound (h : Step every t t') (ht : t.Sound every) : t'.Sound every := by
  cases h with
  | @act l l' s s' pre post hacts =>
    have hnumbers := ht.numbers
    have htold := ht.told
    rw [coe_flatMap_senders] at hnumbers htold
    have hothers : ∀ s' ∈ pre ++ post, ∀ d ∈ s'.flight.sent, ∀ a ∈ l.handed,
        a.batch.Shares d.batch → a.number < d.number := by
      intro s' hs'
      apply ht.above s'
      have hsublist := (List.sublist_cons_self s post).append_left pre
      exact hsublist.subset hs'
    have hself := ht.above s (List.mem_append_right _ (List.mem_cons_self ..))
    cases hacts with
    | number b rest =>
      constructor
      · rw [coe_flatMap_senders]
        simp only [Flight.sent, List.map_cons, List.map_nil, Multiset.coe_nil] at hnumbers ⊢
        rw [List.range'_1_concat, ← Multiset.coe_add, ← hnumbers, Nat.add_comm 1]
        abel
      · rw [coe_flatMap_senders]
        exact htold
      · exact ht.ordered
      · refine forall_senders ?_ hothers
        intro d hd a ha _
        have hle : a.number ≤ l.issued := ht.number_le ha
        rw [List.mem_singleton.1 hd]
        show a.number < l.issued + 1
        omega
      · exact apart_act ht.apart fun b hb => hb
    | tell d rest =>
      constructor
      · rw [coe_flatMap_senders]
        exact hnumbers
      · rw [coe_flatMap_senders]
        simp only [Ledger.lines, Flight.announced, List.flatMap_nil, List.flatMap_singleton,
          List.filterMap_append, ← Multiset.coe_add] at htold ⊢
        rw [htold]
        show _ + (d.lines every : Multiset Nat) = _
        simp only [Multiset.coe_nil]
        abel
      · exact ht.ordered
      · exact forall_senders hself hothers
      · exact apart_act ht.apart fun b hb => hb
    | hand d rest =>
      constructor
      · rw [coe_flatMap_senders]
        simp only [Flight.sent, List.map_append, List.map_cons, List.map_nil, Multiset.coe_nil,
          ← Multiset.coe_add] at hnumbers ⊢
        rw [← hnumbers]
        abel
      · rw [coe_flatMap_senders]
        simp only [Ledger.lines, Flight.announced, List.flatMap_append, List.flatMap_nil,
          List.flatMap_singleton, Multiset.coe_nil, ← Multiset.coe_add] at htold ⊢
        rw [htold]
        abel
      · refine List.pairwise_append.2 ⟨ht.ordered, List.pairwise_singleton .., ?_⟩
        intro a ha e he
        rw [List.mem_singleton.1 he]
        exact hself d (List.mem_singleton_self d) a ha
      · refine forall_senders (fun e he => absurd he List.not_mem_nil) ?_
        intro s' hs' e he a ha hshares
        rcases List.mem_append.1 ha with ha | ha
        · exact hothers s' hs' e he a ha hshares
        · rw [List.mem_singleton.1 ha] at hshares
          have hmine : d.batch ∈ (⟨.told d, rest⟩ : Sender).batches := List.mem_cons_self ..
          have htheirs : e.batch ∈ s'.batches := List.mem_append_left _ (List.mem_map_of_mem he)
          exact absurd hshares (not_shares_of_apart ht.apart hs' hmine htheirs)
      · exact apart_act ht.apart fun b hb => List.mem_cons_of_mem _ hb

/-- What any number of steps preserves. -/
theorem sound_of_steps (h : Relation.ReflTransGen (Step every) t t') (ht : t.Sound every) :
    t'.Sound every := by
  induction h with
  | refl => exact ht
  | tail _ hstep ih => exact hstep.sound ih

theorem batches_of_steps (h : Relation.ReflTransGen (Step every) t t') : t'.batches = t.batches := by
  induction h with
  | refl => rfl
  | tail _ hstep ih => exact hstep.batches_eq.trans ih

/-- Senders that have nothing under way add nothing to what they share. -/
theorem sound_idle_iff {l : Ledger} {senders : List Sender}
    (hidle : ∀ s ∈ senders, s.flight = .idle) :
    (⟨l, senders⟩ : Traffic).Sound every ↔
      (⟨l, []⟩ : Traffic).Sound every ∧ (senders.map (·.batches)).Pairwise Apart := by
  have hnone : ∀ f : Flight → List Nat, f .idle = [] → (senders.flatMap fun s => f s.flight) = [] :=
    fun f hf => List.flatMap_eq_nil_iff.2 fun s hs => (hidle s hs).symm ▸ hf
  have hsent := hnone (fun f => f.sent.map (·.number)) rfl
  have hannounced := hnone (fun f => f.announced.flatMap (·.lines every)) rfl
  constructor
  · intro h
    have hnumbers := h.numbers
    have htold := h.told
    rw [hsent] at hnumbers
    rw [hannounced] at htold
    exact ⟨⟨hnumbers, htold, h.ordered, fun _ hs => absurd hs List.not_mem_nil, .nil⟩, h.apart⟩
  · rintro ⟨h, hapart⟩
    constructor
    · rw [hsent]
      exact h.numbers
    · rw [hannounced]
      exact h.told
    · exact h.ordered
    · intro s hs d hd
      rw [hidle s hs] at hd
      exact absurd hd List.not_mem_nil
    · exact hapart

end Traffic

/-! ## Senders at work until nothing is left -/

namespace Ledger

/-- Senders hand over all that waits in the given queues, and lead from one state of what they share to
another. -/
def Passes (every : Nat) (l : Ledger) (queues : List (List Batch)) (l' : Ledger) : Prop :=
  ∃ senders : List Sender, (∀ s ∈ senders, s = ⟨.idle, []⟩) ∧
    Relation.ReflTransGen (Traffic.Step every) ⟨l, queues.map (⟨.idle, ·⟩)⟩ ⟨l', senders⟩

/-- What is shared while no sender is at work. -/
def Sound (every : Nat) (l : Ledger) : Prop := (⟨l, []⟩ : Traffic).Sound every

variable {every : Nat} {l l' : Ledger} {queues : List (List Batch)}

theorem sound_empty (every : Nat) : ({} : Ledger).Sound every := by
  constructor
  · rfl
  · rfl
  · exact .nil
  · exact fun _ hs => absurd hs List.not_mem_nil
  · exact .nil

/-- **What senders leave**, in whatever order they act, is sound where no user has batches in two of
the queues. -/
theorem Passes.sound (h : l.Passes every queues l') (hl : l.Sound every)
    (hqueues : queues.Pairwise Apart) : l'.Sound every := by
  obtain ⟨senders, hdone, hsteps⟩ := h
  have hstart : (⟨l, queues.map (⟨.idle, ·⟩)⟩ : Traffic).Sound every := by
    refine (Traffic.sound_idle_iff ?_).2 ⟨hl, ?_⟩
    · intro s hs
      obtain ⟨queue, -, rfl⟩ := List.mem_map.1 hs
      rfl
    · simpa [Sender.batches, Flight.sent, Function.comp_def] using hqueues
  have hidle : ∀ s ∈ senders, s.flight = .idle := fun s hs => congrArg Sender.flight (hdone s hs)
  exact ((Traffic.sound_idle_iff hidle).1 (Traffic.sound_of_steps hsteps hstart)).1

/-- Senders hand over what waits, and nothing else. -/
theorem Passes.batches_perm (h : l.Passes every queues l') :
    (l'.handed.map (·.batch)).Perm (l.handed.map (·.batch) ++ queues.flatten) := by
  obtain ⟨senders, hdone, hsteps⟩ := h
  have hbatches := Traffic.batches_of_steps hsteps
  have hleft : senders.flatMap (·.batches) = [] := by
    refine List.flatMap_eq_nil_iff.2 fun s hs => ?_
    rw [hdone s hs]
    rfl
  have hqueues : (queues.map (⟨.idle, ·⟩)).flatMap Sender.batches = queues.flatten := by
    simp [Sender.batches, Flight.sent, List.flatMap_map]
  unfold Traffic.batches at hbatches
  rw [hleft, hqueues, Multiset.coe_nil, add_zero, Multiset.coe_add] at hbatches
  exact Multiset.coe_eq_coe.1 hbatches

/-- While no sender is at work, all numbers taken are handed over, in sequence. -/
theorem Sound.sequenced (h : l.Sound every) : Sequenced every l.handed l.lines := by
  have hnumbers : (l.handed.map (·.number)).Perm (List.range' 1 l.issued) := by
    have hall := h.numbers
    rw [List.flatMap_nil, Multiset.coe_nil, add_zero] at hall
    exact Multiset.coe_eq_coe.1 hall
  have hissued : l.handed.length = l.issued := by
    have hlength := hnumbers.length_eq
    rwa [List.length_map, List.length_range'] at hlength
  rw [← hissued] at hnumbers
  constructor
  · exact hnumbers
  · intro id
    rw [List.pairwise_filter]
    exact h.ordered.imp fun hshares hfor hfor' => hshares ⟨id, hfor, hfor'⟩
  · have hlines : l.lines.Perm ((l.handed.map (·.number)).filter (· % max every 1 = 0)) := by
      have hall := h.told
      rw [List.flatMap_nil, Multiset.coe_nil, add_zero] at hall
      rw [← progress?_progressNotices, List.flatMap_map, List.filterMap_flatMap]
      exact Multiset.coe_eq_coe.1 hall
    exact hlines.trans (hnumbers.filter _)

end Ledger

/-! ## Merges -/

/-- The second list takes its elements from the heads of the first ones until all of them are empty. -/
inductive Merges {α : Type} : List (List α) → List α → Prop
  | nil {xss : List (List α)} : (∀ xs ∈ xss, xs = []) → Merges xss []
  | cons {pre post : List (List α)} {x : α} {xs ys : List α} :
    Merges (pre ++ xs :: post) ys → Merges (pre ++ (x :: xs) :: post) (x :: ys)

/-- A list merges what is chosen from it where each element is chosen once. -/
theorem merges_filter {α : Type} {ps : List (α → Bool)} {ys : List α}
    (h : ∀ y ∈ ys, ∃ pre p post, ps = pre ++ p :: post ∧ p y ∧ ∀ q ∈ pre ++ post, ¬ q y) :
    Merges (ps.map fun p => ys.filter p) ys := by
  induction ys with
  | nil =>
    refine .nil fun xs hxs => ?_
    obtain ⟨p, -, rfl⟩ := List.mem_map.1 hxs
    rfl
  | cons y ys ih =>
    obtain ⟨hy, hys⟩ := List.forall_mem_cons.1 h
    obtain ⟨pre, p, post, rfl, hp, hothers⟩ := hy
    have hsame : ∀ qs : List (α → Bool), qs ⊆ pre ++ post →
        (qs.map fun q => (y :: ys).filter q) = qs.map fun q => ys.filter q := by
      intro qs hqs
      refine List.map_congr_left fun q hq => ?_
      rw [List.filter_cons_of_neg (hothers q (hqs hq))]
    have hrest := ih hys
    rw [List.map_append, List.map_cons] at hrest ⊢
    rw [hsame pre (List.subset_append_left _ _), hsame post (List.subset_append_right _ _),
      List.filter_cons_of_pos hp]
    exact .cons hrest

namespace Ledger

variable (every : Nat)

/-- What is shared after batches were handed over one after the other. -/
def handAll (l : Ledger) (batches : List Batch) : Ledger where
  issued := l.issued + batches.length
  notices := l.notices ++ (List.range' (l.issued + 1) batches.length).flatMap (progressNotice every)
  handed := l.handed ++ numberFrom l.issued batches

theorem handAll_nil (l : Ledger) : l.handAll every [] = l := by
  unfold handAll
  simp [numberFrom]

theorem handAll_cons (l : Ledger) (b : Batch) (batches : List Batch) :
    l.handAll every (b :: batches) = (l.handAll every [b]).handAll every batches := by
  unfold handAll
  simp only [numberFrom_cons, List.length_cons, List.length_nil, List.range'_succ, List.range'_zero,
    List.flatMap_cons, List.flatMap_nil, List.append_assoc, List.append_nil, Ledger.mk.injEq]
  exact ⟨by omega, trivial, by simp [numberFrom]⟩

/-- One sender takes a number, tells of it and hands over, while all others wait. -/
theorem steps_of_next (l : Ledger) (b : Batch) (rest : List Batch) (pre post : List Sender) :
    Relation.ReflTransGen (Traffic.Step every) ⟨l, pre ++ ⟨.idle, b :: rest⟩ :: post⟩
      ⟨l.handAll every [b], pre ++ ⟨.idle, rest⟩ :: post⟩ := by
  refine .head (.act pre post (.number l b rest)) ?_
  refine .head (.act pre post (.tell _ ⟨l.issued + 1, b⟩ rest)) ?_
  refine .head (.act pre post (.hand _ ⟨l.issued + 1, b⟩ rest)) ?_
  unfold handAll
  simp [numberFrom, Relation.ReflTransGen.refl]

/-- **Every merge of the queues is a way in which senders can act.** -/
theorem passes_of_merges {queues : List (List Batch)} {batches : List Batch}
    (h : Merges queues batches) (l : Ledger) : l.Passes every queues (l.handAll every batches) := by
  induction h generalizing l with
  | @nil queues hempty =>
    refine ⟨queues.map (⟨.idle, ·⟩), ?_, ?_⟩
    · intro s hs
      obtain ⟨queue, hqueue, rfl⟩ := List.mem_map.1 hs
      rw [hempty queue hqueue]
    · rw [handAll_nil]
  | @cons pre post b rest batches _ ih =>
    obtain ⟨senders, hdone, hsteps⟩ := ih (l.handAll every [b])
    refine ⟨senders, hdone, ?_⟩
    rw [List.map_append, List.map_cons] at hsteps ⊢
    rw [handAll_cons]
    exact (steps_of_next every l b rest _ _).trans hsteps

/-- Numbers need not be handed over in the order in which they are taken: of two senders the second one
may overtake the first one. -/
theorem passes_overtaking (l : Ledger) (b b' : Batch) :
    ∃ l', l.Passes every [[b], [b']] l' ∧
      l'.handed = l.handed ++ [⟨l.issued + 2, b'⟩, ⟨l.issued + 1, b⟩] := by
  refine ⟨⟨l.issued + 2,
    l.notices ++ progressNotice every (l.issued + 1) ++ progressNotice every (l.issued + 2),
    l.handed ++ [⟨l.issued + 2, b'⟩] ++ [⟨l.issued + 1, b⟩]⟩,
    ⟨[⟨.idle, []⟩, ⟨.idle, []⟩], by simp, ?_⟩, List.append_assoc ..⟩
  refine .head (.act [] [_] (.number _ b [])) ?_
  refine .head (.act [_] [] (.number _ b' [])) ?_
  refine .head (.act [] [_] (.tell _ ⟨l.issued + 1, b⟩ [])) ?_
  refine .head (.act [_] [] (.tell _ ⟨l.issued + 2, b'⟩ [])) ?_
  refine .head (.act [_] [] (.hand _ ⟨l.issued + 2, b'⟩ [])) ?_
  exact .single (.act [] [_] (.hand _ ⟨l.issued + 1, b⟩ []))

end Ledger

end ShopTraffic
