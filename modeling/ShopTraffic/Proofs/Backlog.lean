import Mathlib
import ShopTraffic.Stream.Task

/-!
# The backlog as a map

The backlog holds one entry for a user, in the order of the identities. What it holds for a user is
all that was absorbed for the user and not taken since.

* `mem_insertEntry` — where an entry comes from; `absorb_forall` — what merging keeps of all entries;
* `Backlog.WellFormed` — the order of the entries and that none is empty; every operation keeps it;
* `coe_heldFor_absorb` — for any choice of users, absorbing adds exactly the events absorbed;
* `takeIn_users`, `takeIn_carried`, `takeIn_rest`, `takeIn_events` — sharing out the backlog gives
  every user what is held for the user and loses nothing; `assign_eq_takeIn` — shard by shard or all
  at once.
-/

set_option autoImplicit false

namespace ShopTraffic

theorem UserId.ext_number {a b : UserId} (h : a.number = b.number) : a = b := by
  cases a; cases b; simp_all

/-! ## Entries -/

/-- The events that some entries hold for the users that `p` selects. -/
def heldFor (p : UserId → Bool) (entries : List Carried) : List Event :=
  (entries.filter (p ·.user.id)).flatMap (·.events)

@[simp] theorem heldFor_nil (p : UserId → Bool) : heldFor p [] = [] := rfl

theorem heldFor_cons (p : UserId → Bool) (c : Carried) (cs : List Carried) :
    heldFor p (c :: cs) = (if p c.user.id then c.events else []) ++ heldFor p cs := by
  unfold heldFor
  rw [List.filter_cons]
  split <;> simp

theorem heldFor_append (p : UserId → Bool) (cs ds : List Carried) :
    heldFor p (cs ++ ds) = heldFor p cs ++ heldFor p ds := by
  simp [heldFor]

theorem heldFor_true (cs : List Carried) : heldFor (fun _ => true) cs = cs.flatMap (·.events) := by
  simp [heldFor]

theorem mem_heldFor {p : UserId → Bool} {cs : List Carried} {e : Event} :
    e ∈ heldFor p cs ↔ ∃ c ∈ cs, p c.user.id ∧ e ∈ c.events := by
  simp only [heldFor, List.mem_flatMap, List.mem_filter]
  constructor
  · rintro ⟨c, ⟨hc, hp⟩, he⟩
    exact ⟨c, hc, hp, he⟩
  · rintro ⟨c, hc, hp, he⟩
    exact ⟨c, ⟨hc, hp⟩, he⟩

theorem heldFor_eq_nil {id : UserId} {cs : List Carried} (h : id ∉ cs.map (·.user.id)) :
    heldFor (· = id) cs = [] := by
  unfold heldFor
  rw [List.filter_eq_nil_iff.2, List.flatMap_nil]
  intro c hc heq
  exact h (List.mem_map.2 ⟨c, hc, of_decide_eq_true heq⟩)

/-- Among items with different keys, a key selects one item. -/
theorem filter_key_of_nodup {α κ : Type} [DecidableEq κ] (key : α → κ) {xs : List α}
    (h : (xs.map key).Nodup) {x : α} (hx : x ∈ xs) : xs.filter (key · = key x) = [x] := by
  induction xs with
  | nil => cases hx
  | cons y rest ih =>
    obtain ⟨hy, hrest⟩ := List.nodup_cons.1 h
    rw [List.filter_cons]
    rcases List.mem_cons.1 hx with rfl | hx
    · have hnone : rest.filter (key · = key x) = [] := by
        refine List.filter_eq_nil_iff.2 fun z hz heq => hy ?_
        exact List.mem_map.2 ⟨z, hz, of_decide_eq_true heq⟩
      rw [if_pos (decide_eq_true rfl), hnone]
    · have hne : key y ≠ key x := fun heq => hy (List.mem_map.2 ⟨x, hx, heq.symm⟩)
      rw [if_neg (by simpa using hne)]
      exact ih hrest hx

/-- Among entries of different users, one entry is all that is held for its user. -/
theorem heldFor_of_nodup {c : Carried} {cs : List Carried} (h : (cs.map (·.user.id)).Nodup)
    (hc : c ∈ cs) : heldFor (· = c.user.id) cs = c.events := by
  unfold heldFor
  rw [filter_key_of_nodup (·.user.id) h hc, List.flatMap_singleton]

namespace Backlog

theorem mem_insertEntry {c x : Carried} {entries : List Carried} (h : x ∈ insertEntry c entries) :
    x = c ∨ x ∈ entries ∨ ∃ d ∈ entries, d.user.id = c.user.id ∧
      x = { d with events := byTime (d.events ++ c.events) } := by
  induction entries with
  | nil => exact .inl (by simpa [insertEntry] using h)
  | cons e rest ih =>
    unfold insertEntry at h
    split at h
    · rename_i hid
      rcases List.mem_cons.1 h with rfl | h
      · exact .inr (.inr ⟨e, List.mem_cons_self, hid.symm, rfl⟩)
      · exact .inr (.inl (List.mem_cons_of_mem _ h))
    · split at h
      · rcases List.mem_cons.1 h with rfl | h
        · exact .inl rfl
        · exact .inr (.inl h)
      · rcases List.mem_cons.1 h with rfl | h
        · exact .inr (.inl List.mem_cons_self)
        · rcases ih h with h | h | ⟨d, hd, hid, rfl⟩
          · exact .inl h
          · exact .inr (.inl (List.mem_cons_of_mem _ h))
          · exact .inr (.inr ⟨d, List.mem_cons_of_mem _ hd, hid, rfl⟩)

/-- The entries are in the order of the identities. -/
def Ordered (entries : List Carried) : Prop :=
  entries.Pairwise fun c d => c.user.id.number < d.user.id.number

theorem ordered_insertEntry (c : Carried) {entries : List Carried} (h : Ordered entries) :
    Ordered (insertEntry c entries) := by
  induction entries with
  | nil => exact List.pairwise_singleton _ _
  | cons e rest ih =>
    obtain ⟨he, hrest⟩ := List.pairwise_cons.1 h
    unfold insertEntry
    split
    · exact List.pairwise_cons.2 ⟨he, hrest⟩
    · rename_i hne
      split
      · rename_i hlt
        refine List.pairwise_cons.2 ⟨fun x hx => ?_, h⟩
        rcases List.mem_cons.1 hx with rfl | hx
        · exact hlt
        · exact Nat.lt_trans hlt (he x hx)
      · rename_i hge
        have hlt : e.user.id.number < c.user.id.number := by
          have : c.user.id.number ≠ e.user.id.number := fun heq => hne (UserId.ext_number heq)
          omega
        refine List.pairwise_cons.2 ⟨fun x hx => ?_, ih hrest⟩
        rcases mem_insertEntry hx with rfl | hx | ⟨d, hd, -, rfl⟩
        · exact hlt
        · exact he x hx
        · exact he d hd

theorem coe_heldFor_insertEntry (p : UserId → Bool) (c : Carried) (entries : List Carried) :
    (heldFor p (insertEntry c entries) : Multiset Event) =
      heldFor p entries + heldFor p [c] := by
  induction entries with
  | nil => simp [insertEntry]
  | cons e rest ih =>
    unfold insertEntry
    split
    · rename_i hid
      simp only [heldFor_cons, heldFor_nil, hid]
      split
      · simp only [List.append_nil, ← Multiset.coe_add,
          Multiset.coe_eq_coe.2 (byTime_perm (e.events ++ c.events))]
        abel
      · simp
    · split
      · rw [heldFor_cons p c, heldFor_cons p c, heldFor_nil, List.append_nil, add_comm,
          Multiset.coe_add]
      · rw [heldFor_cons p e, heldFor_cons p e, ← Multiset.coe_add, ih, ← Multiset.coe_add, add_assoc]

/-- The entries are in order and none is empty. -/
structure WellFormed (b : Backlog) : Prop where
  ordered : Ordered b.entries
  nonempty : ∀ c ∈ b.entries, c.events ≠ []

theorem wellFormed_empty : WellFormed {} :=
  ⟨.nil, fun _ h => absurd h List.not_mem_nil⟩

theorem WellFormed.add {b : Backlog} (h : b.WellFormed) (c : Carried) : (b.add c).WellFormed := by
  unfold Backlog.add
  split
  · exact h
  · rename_i hc
    refine ⟨ordered_insertEntry c h.ordered, fun x hx => ?_⟩
    rcases mem_insertEntry hx with rfl | hx | ⟨d, hd, -, rfl⟩
    · simpa using hc
    · exact h.nonempty x hx
    · intro hnil
      have hperm := byTime_perm (d.events ++ c.events)
      rw [show byTime (d.events ++ c.events) = [] from hnil] at hperm
      have := hperm.symm.eq_nil
      exact h.nonempty d hd (List.append_eq_nil_iff.1 this).1

theorem WellFormed.absorb {b : Backlog} (h : b.WellFormed) (cs : List Carried) :
    (b.absorb cs).WellFormed := by
  unfold Backlog.absorb
  induction cs generalizing b with
  | nil => exact h
  | cons c cs ih => exact ih (h.add c)

theorem coe_heldFor_add (p : UserId → Bool) (b : Backlog) (c : Carried) :
    (heldFor p (b.add c).entries : Multiset Event) = heldFor p b.entries + heldFor p [c] := by
  unfold Backlog.add
  split
  · rename_i hc
    have : heldFor p [c] = [] := by
      simp [heldFor_cons, List.isEmpty_iff.1 hc]
    simp [this]
  · exact coe_heldFor_insertEntry p c b.entries

/-- **Absorbing adds the events absorbed, for any choice of users.** -/
theorem coe_heldFor_absorb (p : UserId → Bool) (b : Backlog) (cs : List Carried) :
    (heldFor p (b.absorb cs).entries : Multiset Event) = heldFor p b.entries + heldFor p cs := by
  unfold Backlog.absorb
  induction cs generalizing b with
  | nil => simp
  | cons c cs ih =>
    rw [List.foldl_cons, ih, coe_heldFor_add, add_assoc, Multiset.coe_add,
      ← heldFor_append, List.singleton_append]

/-- What holds of all that is absorbed and survives a merge holds of all entries. -/
theorem absorb_forall {P : Carried → Prop} {b : Backlog} {cs : List Carried}
    (hb : ∀ c ∈ b.entries, P c) (hcs : ∀ c ∈ cs, P c)
    (hmerge : ∀ c d, P c → P d → P { c with events := byTime (c.events ++ d.events) }) :
    ∀ c ∈ (b.absorb cs).entries, P c := by
  unfold Backlog.absorb
  induction cs generalizing b with
  | nil => exact hb
  | cons c cs ih =>
    refine ih (fun x hx => ?_) fun x hx => hcs x (List.mem_cons_of_mem _ hx)
    unfold Backlog.add at hx
    split at hx
    · exact hb x hx
    · rcases mem_insertEntry hx with rfl | hx | ⟨d, hd, -, rfl⟩
      · exact hcs x List.mem_cons_self
      · exact hb x hx
      · exact hmerge d c (hb d hd) (hcs c List.mem_cons_self)

/-! ## Looking up and taking -/

theorem Ordered.nodup {entries : List Carried} (h : Ordered entries) :
    (entries.map (·.user.id)).Nodup := by
  refine List.pairwise_map.2 (h.imp fun {c d} hlt heq => ?_)
  rw [heq] at hlt
  exact Nat.lt_irrefl _ hlt

theorem eventsOf_eq_heldFor {b : Backlog} (h : Ordered b.entries) (id : UserId) :
    b.eventsOf id = heldFor (· = id) b.entries := by
  unfold eventsOf get?
  cases hfind : b.entries.find? (·.user.id = id) with
  | none =>
    unfold heldFor
    rw [List.find?_eq_none] at hfind
    rw [List.filter_eq_nil_iff.2 hfind]
    rfl
  | some c =>
    have hid : c.user.id = id := by simpa using List.find?_some hfind
    rw [← hid]
    exact (heldFor_of_nodup h.nodup (List.mem_of_find?_eq_some hfind)).symm

theorem eventsOf_entry {b : Backlog} (h : Ordered b.entries) {c : Carried} (hc : c ∈ b.entries) :
    b.eventsOf c.user.id = c.events :=
  (eventsOf_eq_heldFor h _).trans (heldFor_of_nodup h.nodup hc)

theorem eventsOf_eq_nil {b : Backlog} {id : UserId} (h : ∀ c ∈ b.entries, c.user.id ≠ id) :
    b.eventsOf id = [] := by
  unfold eventsOf get?
  rw [List.find?_eq_none.2]
  · rfl
  · intro c hc
    simpa using h c hc

theorem eventsOf_take_of_ne (b : Backlog) {id other : UserId} (h : other ≠ id) :
    (b.take id).2.eventsOf other = b.eventsOf other := by
  have hsame : (fun c : Carried => decide (decide (c.user.id ≠ id) = true ∧
      decide (c.user.id = other) = true)) = fun c => decide (c.user.id = other) := by
    funext c
    by_cases hc : c.user.id = other
    · simp [hc, h]
    · simp [hc]
  unfold eventsOf get? take
  simp only [List.find?_filter, hsame]

theorem WellFormed.filter {b : Backlog} (h : b.WellFormed) (p : Carried → Bool) :
    WellFormed ⟨b.entries.filter p⟩ :=
  ⟨h.ordered.sublist List.filter_sublist, fun c hc => h.nonempty c (List.mem_filter.1 hc).1⟩

theorem coe_events_take {b : Backlog} (h : Ordered b.entries) (id : UserId) :
    (b.events : Multiset Event) = b.eventsOf id + (b.take id).2.events := by
  rw [eventsOf_eq_heldFor h]
  obtain ⟨entries⟩ := b
  clear h
  unfold events take
  simp only
  induction entries with
  | nil => rfl
  | cons e rest ih =>
    rw [heldFor_cons, List.flatMap_cons, ← Multiset.coe_add, ih, List.filter_cons]
    by_cases hid : e.user.id = id
    · simp [hid, ← Multiset.coe_add, add_assoc]
    · simp [hid, ← Multiset.coe_add]
      abel

end Backlog

/-! ## Sharing out -/

theorem takeIn_users :
    ∀ (us : List User) (b : Backlog), (takeIn us b).1.map (·.user) = us
  | [], _ => rfl
  | u :: us, b => by simp [takeIn, takeIn_users us]

theorem takeIn_rest :
    ∀ (us : List User) (b : Backlog),
      (takeIn us b).2.entries = b.entries.filter fun c => c.user.id ∉ us.map (·.id)
  | [], b => by simp [takeIn]
  | u :: us, b => by
    simp only [takeIn, takeIn_rest us]
    simp only [Backlog.take, List.filter_filter]
    congr 1
    funext c
    by_cases hc : c.user.id = u.id <;> simp [hc]

theorem takeIn_carried :
    ∀ (us : List User) (b : Backlog), (us.map (·.id)).Nodup →
      ∀ i ∈ (takeIn us b).1, i.carried = b.eventsOf i.user.id
  | [], _, _, i, hi => absurd hi List.not_mem_nil
  | u :: us, b, hnd, i, hi => by
    rw [List.map_cons, List.nodup_cons] at hnd
    simp only [takeIn] at hi
    rcases List.mem_cons.1 hi with rfl | hi
    · rfl
    · have hmem : i.user ∈ us := by
        have := List.mem_map_of_mem (f := (·.user)) hi
        rwa [takeIn_users] at this
      have hne : i.user.id ≠ u.id := fun heq => hnd.1 (heq ▸ List.mem_map_of_mem hmem)
      rw [takeIn_carried us _ hnd.2 i hi, Backlog.eventsOf_take_of_ne b hne]

/-- **Sharing out loses nothing**, whichever users share and however often one is named. -/
theorem takeIn_events :
    ∀ (us : List User) (b : Backlog), b.WellFormed →
      (b.events : Multiset Event) =
        ((takeIn us b).1.flatMap (·.carried) : List Event) + (takeIn us b).2.events
  | [], _, _ => by simp [takeIn]
  | u :: us, b, h => by
    rw [Backlog.coe_events_take h.ordered u.id, takeIn_events us (b.take u.id).2 (h.filter _)]
    simp only [takeIn, List.flatMap_cons, ← Multiset.coe_add, add_assoc]
    rfl

theorem takeIn_append :
    ∀ (us vs : List User) (b : Backlog),
      takeIn (us ++ vs) b =
        ((takeIn us b).1 ++ (takeIn vs (takeIn us b).2).1, (takeIn vs (takeIn us b).2).2)
  | [], _, _ => rfl
  | u :: us, vs, b => by simp [takeIn, takeIn_append us]

/-- Sharing out shard by shard is sharing out to the users of all shards. -/
theorem assign_eq_takeIn :
    ∀ (shards : List (List User)) (b : Backlog),
      ((assign shards b).1.flatten, (assign shards b).2) = takeIn shards.flatten b
  | [], _ => rfl
  | us :: shards, b => by
    rw [List.flatten_cons, takeIn_append, ← assign_eq_takeIn shards]
    rfl

/-- Every shard keeps its users. -/
theorem assign_users :
    ∀ (shards : List (List User)) (b : Backlog),
      (assign shards b).1.map (·.map (·.user)) = shards
  | [], _ => rfl
  | us :: shards, b => by simp only [assign, List.map_cons, takeIn_users, assign_users shards]

end ShopTraffic
