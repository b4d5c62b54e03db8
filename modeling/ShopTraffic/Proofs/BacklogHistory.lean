import Mathlib
import ShopTraffic.Proofs.Backlog
import ShopTraffic.Proofs.TimeSort

/-!
# The books of the backlog

Leftovers are absorbed, taken and drained in any order, and what is absorbed may be empty, out of
order or for users who are there already. Whatever is done, the events absorbed for a user come out
again once, with a `take` or a `drain`, or are still there, those of one time in the order in which
they were absorbed.

* `Operation`, `Answer`, `perform`, `performAll` — operations on the backlog and what they give;
* `perform_inOrder`, `perform_wellFormed`, `perform_sorted` — what one operation preserves;
* `Listed`, `WellFormed.listed` — the backlog as a map from users to events;
* `Balanced`, `performAll_balanced` — any history of operations.
-/

set_option autoImplicit false

namespace ShopTraffic

namespace Backlog

/-- What can be asked of the backlog. -/
inductive Operation where
  | absorb (cs : List Carried)
  | take (id : UserId)
  | drain

/-- What an operation gives. -/
inductive Answer where
  | absorbed
  | taken (id : UserId) (events : Option (List Event))
  | drained (entries : List Carried)

/-- Carries out an operation. -/
def perform (b : Backlog) : Operation → Answer × Backlog
  | .absorb cs => (.absorbed, b.absorb cs)
  | .take id => (.taken id (b.take id).1, (b.take id).2)
  | .drain => (.drained b.drain.1, b.drain.2)

/-- Carries out operations one after the other. -/
def performAll : List Operation → Backlog → List Answer × Backlog
  | [], b => ([], b)
  | op :: ops, b =>
    let (answer, b) := b.perform op
    let (answers, b) := performAll ops b
    (answer :: answers, b)

namespace Operation

/-- The lists of events that an operation adds. -/
def lists : Operation → List (List Event)
  | .absorb cs => cs.map (·.events)
  | .take _ | .drain => []

/-- The events that an operation adds for a user. -/
def absorbedFor (id : UserId) : Operation → List Event
  | .absorb cs => heldFor (· = id) cs
  | .take _ | .drain => []

end Operation

namespace Answer

/-- The lists of events that an answer gives. -/
def lists : Answer → List (List Event)
  | .absorbed => []
  | .taken _ events => events.toList
  | .drained entries => entries.map (·.events)

/-- The events that an answer gives for a user. -/
def returnedFor (id : UserId) : Answer → List Event
  | .absorbed => []
  | .taken other events => if other = id then events.getD [] else []
  | .drained entries => heldFor (· = id) entries

end Answer

/-! ## One operation -/

section Order

variable {b : Backlog} {entries : List Carried}

/-- An entry is put behind the events of its user, as far as their times are equal. -/
theorem filter_heldFor_insertEntry (c : Carried) (h : Ordered entries) (id : UserId) (t : Instant) :
    (heldFor (· = id) (insertEntry c entries)).filter (·.time = t) =
      (heldFor (· = id) (entries ++ [c])).filter (·.time = t) := by
  induction entries with
  | nil => rfl
  | cons e rest ih =>
    obtain ⟨he, hrest⟩ := List.pairwise_cons.1 h
    unfold insertEntry
    split
    · rename_i hid
      have hnone : heldFor (· = e.user.id) rest = [] := by
        refine heldFor_eq_nil fun hmem => ?_
        obtain ⟨d, hd, heq⟩ := List.mem_map.1 hmem
        exact Nat.lt_irrefl _ (heq ▸ he d hd)
      rw [heldFor_cons, heldFor_append, heldFor_cons, heldFor_cons, heldFor_nil, hid]
      by_cases hsame : e.user.id = id
      · rw [← hsame, hnone]
        simp [filter_byTime]
      · simp [hsame]
    · split
      · rename_i hlt
        by_cases hsame : c.user.id = id
        · -- all entries lie behind the new one, so none of them is its user's
          have hnone : heldFor (· = id) (e :: rest) = [] := by
            refine heldFor_eq_nil fun hmem => ?_
            obtain ⟨d, hd, heq⟩ := List.mem_map.1 hmem
            rw [hsame, ← heq] at hlt
            rcases List.mem_cons.1 hd with rfl | hd
            · exact Nat.lt_irrefl _ hlt
            · exact Nat.lt_asymm hlt (he d hd)
          rw [heldFor_cons, heldFor_append, hnone, heldFor_cons]
          simp
        · simp [heldFor_cons, heldFor_append, hsame]
      · rw [heldFor_cons, List.cons_append, heldFor_cons, List.filter_append, List.filter_append,
          ih hrest]

theorem filter_heldFor_absorb (h : b.WellFormed) (cs : List Carried) (id : UserId) (t : Instant) :
    (heldFor (· = id) (b.absorb cs).entries).filter (·.time = t) =
      (heldFor (· = id) (b.entries ++ cs)).filter (·.time = t) := by
  unfold absorb
  induction cs generalizing b with
  | nil => rw [List.foldl_nil, List.append_nil]
  | cons c cs ih =>
    have hadd : (heldFor (· = id) (b.add c).entries).filter (·.time = t) =
        (heldFor (· = id) (b.entries ++ [c])).filter (·.time = t) := by
      unfold add
      split
      · rename_i hnone
        simp [heldFor_append, heldFor_cons, List.isEmpty_iff.1 hnone]
      · exact filter_heldFor_insertEntry c h.ordered id t
    rw [List.foldl_cons, ih (h.add c), heldFor_append, List.filter_append, hadd,
      ← List.filter_append, ← heldFor_append, List.append_assoc, List.singleton_append]

end Order

section Step

variable {b : Backlog}

/-- The events of a user who is taken are gone, and those of the others stay. -/
theorem eventsOf_take (b : Backlog) (id other : UserId) :
    (b.take id).2.eventsOf other = if other = id then [] else b.eventsOf other := by
  split
  · rename_i hsame
    unfold eventsOf
    rw [hsame, get?_take]
    rfl
  · rename_i hne
    exact eventsOf_take_of_ne b hne

/-- The backlog gives events exactly for the users for whom it holds some. -/
theorem WellFormed.get?_eq (h : b.WellFormed) (id : UserId) :
    b.get? id = if b.eventsOf id = [] then none else some (b.eventsOf id) := by
  unfold eventsOf
  cases hget : b.get? id with
  | none => rfl
  | some events =>
    obtain ⟨c, hfind, rfl⟩ := Option.map_eq_some_iff.1 hget
    rw [Option.getD_some, if_neg (h.nonempty c (List.mem_of_find?_eq_some hfind))]

theorem perform_wellFormed (h : b.WellFormed) (op : Operation) : (b.perform op).2.WellFormed := by
  cases op with
  | absorb cs => exact h.absorb cs
  | take id => exact h.filter _
  | drain => exact wellFormed_empty

/-- **What an operation gives and leaves for a user** is what it found and what it added, events of
one time in that order. -/
theorem perform_inOrder (h : b.WellFormed) (op : Operation) (id : UserId) (t : Instant) :
    ((b.perform op).1.returnedFor id ++ (b.perform op).2.eventsOf id).filter (·.time = t) =
      (b.eventsOf id ++ op.absorbedFor id).filter (·.time = t) := by
  cases op with
  | absorb cs =>
    have habsorb := filter_heldFor_absorb h cs id t
    rw [heldFor_append, ← eventsOf_eq_heldFor h.ordered,
      ← eventsOf_eq_heldFor (h.absorb cs).ordered] at habsorb
    exact habsorb
  | take other =>
    show ((if other = id then b.eventsOf other else []) ++ (b.take other).2.eventsOf id).filter _ =
      (b.eventsOf id ++ []).filter _
    rw [eventsOf_take, List.append_nil]
    by_cases hsame : other = id
    · rw [if_pos hsame, if_pos hsame.symm, List.append_nil, hsame]
    · rw [if_neg hsame, if_neg (Ne.symm hsame), List.nil_append]
  | drain =>
    show (heldFor (· = id) b.entries ++ []).filter _ = (b.eventsOf id ++ []).filter _
    rw [eventsOf_eq_heldFor h.ordered]

/-- Lists in order of time are given and held as such. -/
theorem perform_sorted (hb : ∀ c ∈ b.entries, TimeOrdered c.events) {op : Operation}
    (hop : ∀ events ∈ op.lists, TimeOrdered events) :
    (∀ events ∈ (b.perform op).1.lists, TimeOrdered events) ∧
      ∀ c ∈ (b.perform op).2.entries, TimeOrdered c.events := by
  cases op with
  | absorb cs =>
    refine ⟨fun _ hmem => absurd hmem List.not_mem_nil, ?_⟩
    refine absorb_forall hb (fun c hc => hop c.events (List.mem_map_of_mem hc)) ?_
    exact fun c d _ _ => timeOrdered_byTime (c.events ++ d.events)
  | take id =>
    refine ⟨fun events hmem => ?_, fun c hc => hb c (List.mem_filter.1 hc).1⟩
    obtain ⟨c, hfind, rfl⟩ := Option.map_eq_some_iff.1 (Option.mem_toList.1 hmem)
    exact hb c (List.mem_of_find?_eq_some hfind)
  | drain =>
    refine ⟨fun events hmem => ?_, fun _ hmem => absurd hmem List.not_mem_nil⟩
    obtain ⟨c, hc, rfl⟩ := List.mem_map.1 hmem
    exact hb c hc

end Step

/-! ## The backlog as a map -/

/-- The entries are those of a map: the given users in the order of their identities, each once and
with the events held for it, and no user without events. -/
structure Listed (b : Backlog) (ids : List UserId) : Prop where
  ascending : ids.Pairwise fun i j => i.number < j.number
  mem_iff : ∀ id, id ∈ ids ↔ b.eventsOf id ≠ []
  entries : b.entries.map (fun c => (c.user.id, c.events)) = ids.map fun id => (id, b.eventsOf id)
  size : b.size = ids.length
  count : b.count = totalOf (fun id => (b.eventsOf id).length) ids

/-- **A backlog in order is a map.** -/
theorem WellFormed.listed {b : Backlog} (h : b.WellFormed) :
    b.Listed (b.entries.map (·.user.id)) := by
  have hentries : b.entries.map (fun c => (c.user.id, c.events)) =
      (b.entries.map (·.user.id)).map fun id => (id, b.eventsOf id) := by
    rw [List.map_map]
    refine List.map_congr_left fun c hc => ?_
    rw [Function.comp_apply, eventsOf_entry h.ordered hc]
  constructor
  · exact List.pairwise_map.2 h.ordered
  · intro id
    constructor
    · intro hmem
      obtain ⟨c, hc, rfl⟩ := List.mem_map.1 hmem
      rw [eventsOf_entry h.ordered hc]
      exact h.nonempty c hc
    · intro hne
      by_contra hmem
      exact hne ((eventsOf_eq_heldFor h.ordered id).trans (heldFor_eq_nil hmem))
  · exact hentries
  · exact (List.length_map _).symm
  · have hcounts := congrArg (totalOf fun entry : UserId × List Event => entry.2.length) hentries
    rw [totalOf_map, totalOf_map] at hcounts
    exact hcounts

/-! ## Histories -/

section History

variable {b : Backlog}

theorem performAll_wellFormed (h : b.WellFormed) (ops : List Operation) :
    (performAll ops b).2.WellFormed := by
  induction ops generalizing b with
  | nil => exact h
  | cons op ops ih => exact ih (perform_wellFormed h op)

/-- What operations give and leave for a user, events of one time in the order they were added. -/
theorem performAll_inOrder (h : b.WellFormed) (ops : List Operation) (id : UserId) (t : Instant) :
    ((performAll ops b).1.flatMap (·.returnedFor id) ++
        (performAll ops b).2.eventsOf id).filter (·.time = t) =
      (b.eventsOf id ++ ops.flatMap (·.absorbedFor id)).filter (·.time = t) := by
  induction ops generalizing b with
  | nil => rw [performAll, List.flatMap_nil, List.flatMap_nil, List.nil_append, List.append_nil]
  | cons op ops ih =>
    have hstep := perform_inOrder h op id t
    have hrest := ih (perform_wellFormed h op)
    rw [performAll, List.flatMap_cons, List.flatMap_cons, List.append_assoc, List.filter_append,
      hrest, ← List.filter_append, ← List.append_assoc, List.filter_append, hstep,
      ← List.filter_append, List.append_assoc]

theorem performAll_sorted (hb : ∀ c ∈ b.entries, TimeOrdered c.events) {ops : List Operation}
    (hops : ∀ op ∈ ops, ∀ events ∈ op.lists, TimeOrdered events) :
    (∀ answer ∈ (performAll ops b).1, ∀ events ∈ answer.lists, TimeOrdered events) ∧
      ∀ c ∈ (performAll ops b).2.entries, TimeOrdered c.events := by
  induction ops generalizing b with
  | nil => exact ⟨fun _ hmem => absurd hmem List.not_mem_nil, hb⟩
  | cons op ops ih =>
    obtain ⟨hop, hops⟩ := List.forall_mem_cons.1 hops
    obtain ⟨hanswer, hnext⟩ := perform_sorted hb hop
    obtain ⟨hanswers, hlast⟩ := ih hnext hops
    exact ⟨List.forall_mem_cons.2 ⟨hanswer, hanswers⟩, hlast⟩

end History

/-- **The books of the backlog**: what operations absorbed, what they gave, and the backlog that is
left. -/
structure Balanced (ops : List Operation) (answers : List Answer) (b : Backlog) : Prop where
  /-- Every event absorbed for a user was given for it once or is held for it. -/
  events : ∀ id, ((ops.flatMap (·.absorbedFor id) : List Event) : Multiset Event) =
    (answers.flatMap (·.returnedFor id) : List Event) + b.eventsOf id
  /-- Events of one time come out in the order in which they were absorbed. -/
  inOrder : ∀ id t, (answers.flatMap (·.returnedFor id) ++ b.eventsOf id).filter (·.time = t) =
    (ops.flatMap (·.absorbedFor id)).filter (·.time = t)
  /-- If all that is absorbed is in order of time, so is all that is given and held. -/
  sorted : (∀ op ∈ ops, ∀ events ∈ op.lists, TimeOrdered events) →
    (∀ answer ∈ answers, ∀ events ∈ answer.lists, TimeOrdered events) ∧
      ∀ c ∈ b.entries, TimeOrdered c.events
  /-- Nothing is held but the events of a map, and a `drain` gives all of them in its order. -/
  listed : ∃ ids, b.Listed ids ∧ ∃ entries, b.perform .drain = (.drained entries, {}) ∧
    entries.map (fun c => (c.user.id, c.events)) = ids.map fun id => (id, b.eventsOf id)
  /-- A `take` gives what is held for its user, and leaves nothing for it. -/
  taken : ∀ id, (b.perform (.take id)).1 =
      .taken id (if b.eventsOf id = [] then none else some (b.eventsOf id)) ∧
    ∀ other, (b.perform (.take id)).2.eventsOf other = if other = id then [] else b.eventsOf other

/-- **Any history of operations keeps the books of the backlog.** -/
theorem performAll_balanced (ops : List Operation) :
    Balanced ops (performAll ops {}).1 (performAll ops {}).2 := by
  have hwell := performAll_wellFormed wellFormed_empty ops
  have hinOrder : ∀ id t, ((performAll ops {}).1.flatMap (·.returnedFor id) ++
      (performAll ops {}).2.eventsOf id).filter (·.time = t) =
        (ops.flatMap (·.absorbedFor id)).filter (·.time = t) :=
    performAll_inOrder wellFormed_empty ops
  constructor
  case events =>
    intro id
    rw [Multiset.coe_add]
    exact Multiset.coe_eq_coe.2 (perm_of_filter_time fun t => (hinOrder id t).symm)
  case inOrder => exact hinOrder
  case sorted => exact performAll_sorted fun _ hmem => absurd hmem List.not_mem_nil
  case listed => exact ⟨_, hwell.listed, _, rfl, hwell.listed.entries⟩
  case taken =>
    intro id
    refine ⟨?_, eventsOf_take _ id⟩
    rw [← hwell.get?_eq]
    rfl

end Backlog

end ShopTraffic
