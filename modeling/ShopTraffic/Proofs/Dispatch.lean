import Mathlib
import ShopTraffic.Proofs.Residents
import ShopTraffic.Proofs.Shards

/-!
# Sharing out the work of a window

The users of the shards and those of the task for carried events are different ones, each is handed
all that the backlog holds for it, and together they are handed all of the backlog.

* `Streamer.shardIntakes`, `Streamer.orphans` — what the shards are handed, and what the backlog
  holds for others; `mem_shares` — the shares are these two;
* `Streamer.allIntakes` — what all tasks are handed; `coe_allIntakes`, `allIntakes_nodup`,
  `carried_of_mem_allIntakes`, `exists_intake_of_entry` — its four properties;
* `StreamState.Sound` — the state between two windows, as far as sharing out depends on it.
-/

set_option autoImplicit false

namespace ShopTraffic

open Chance

/-! ## The state between windows -/

/-- The state between two windows: the backlog is in order, active users are different ones and have
their seats, and what is left over belongs to the population. -/
structure StreamState.Sound (st : StreamState) : Prop where
  backlog : st.backlog.WellFormed
  nodup : st.active.Nodup
  seated : ∀ i ∈ st.active, i < st.population.size
  resident : ∀ c ∈ st.backlog.entries, c.user.place ∈ st.population.places

namespace Streamer

variable (s : Streamer) (st : StreamState)

/-- The users of all shards. -/
def sharded : List User := (shardsOf (st.population.select st.active) s.settings.shards).flatten

/-- What the users of the shards are handed. -/
def shardIntakes : List (List Intake) :=
  (assign (shardsOf (st.population.select st.active) s.settings.shards) st.backlog).1

/-- What the backlog holds for users of no shard. -/
def orphans : List Carried :=
  (assign (shardsOf (st.population.select st.active) s.settings.shards) st.backlog).2.entries

/-- The users of every shard are handed their share, in order. -/
theorem shardIntakes_users : (s.shardIntakes st).map (·.map (·.user)) =
    shardsOf (st.population.select st.active) s.settings.shards :=
  assign_users _ _

theorem length_shardIntakes : (s.shardIntakes st).length =
    min s.settings.shards (st.population.select st.active).length := by
  rw [← length_shardsOf, ← shardIntakes_users, List.length_map]

theorem shardIntakes_flatten :
    (s.shardIntakes st).flatten = (takeIn (s.sharded st) st.backlog).1 :=
  congrArg Prod.fst (assign_eq_takeIn _ _)

theorem orphans_eq : s.orphans st =
    st.backlog.entries.filter fun c => c.user.id ∉ (s.sharded st).map (·.id) := by
  rw [← takeIn_rest]
  exact congrArg (·.2.entries) (assign_eq_takeIn _ _)

/-- The shares of a window: those of its shards, and one more if there are orphans. -/
theorem shares_eq : s.shares st =
    ((s.shardIntakes st).zipIdx.map fun share => (⟨share.2⟩, share.1, true)) ++
      if s.orphans st = [] then []
      else [(.carry, (s.orphans st).map fun c => ⟨c.user, c.events⟩, false)] := by
  unfold shares orphans
  simp only
  split
  · rename_i hnone
    rw [if_pos hnone]
    rfl
  · rename_i hsome
    rw [if_neg hsome]
    rfl

/-- A share is that of a shard, or that of the orphans. -/
theorem mem_shares {share : ShardId × List Intake × Bool} : share ∈ s.shares st ↔
    (∃ i intakes, (s.shardIntakes st)[i]? = some intakes ∧ share = (⟨i⟩, intakes, true)) ∨
      s.orphans st ≠ [] ∧
        share = (.carry, (s.orphans st).map fun c => ⟨c.user, c.events⟩, false) := by
  rw [shares_eq, List.mem_append, List.mem_map]
  refine or_congr ⟨?_, ?_⟩ ?_
  · rintro ⟨⟨intakes, i⟩, hmem, rfl⟩
    exact ⟨i, intakes, List.mem_zipIdx_iff_getElem?.1 hmem, rfl⟩
  · rintro ⟨i, intakes, hmem, rfl⟩
    exact ⟨(intakes, i), List.mem_zipIdx_iff_getElem?.2 hmem, rfl⟩
  · split <;> simp_all

/-- What all tasks of a window are handed. -/
def allIntakes : List Intake := (s.shares st).flatMap (·.2.1)

theorem allIntakes_eq : s.allIntakes st = (takeIn (s.sharded st) st.backlog).1 ++
    (s.orphans st).map fun c => ⟨c.user, c.events⟩ := by
  unfold allIntakes
  rw [shares_eq, List.flatMap_append, ← shardIntakes_flatten]
  congr 1
  · rw [List.flatMap_map, List.flatMap_def]
    exact congrArg List.flatten (List.zipIdx_map_fst 0 _)
  · split
    · rename_i hnone
      rw [hnone]
      rfl
    · exact List.append_nil _

/-- An intake of a window is that of a shard's user, or of an entry of the backlog. -/
theorem mem_allIntakes {i : Intake} (h : i ∈ s.allIntakes st) :
    i ∈ (takeIn (s.sharded st) st.backlog).1 ∧ i.user ∈ s.sharded st ∨
      ∃ c ∈ st.backlog.entries, i = ⟨c.user, c.events⟩ := by
  rw [allIntakes_eq, List.mem_append] at h
  rcases h with h | h
  · have hmem := List.mem_map_of_mem (f := fun i : Intake => i.user) h
    rw [takeIn_users] at hmem
    exact .inl ⟨h, hmem⟩
  · obtain ⟨c, hc, rfl⟩ := List.mem_map.1 h
    rw [orphans_eq] at hc
    exact .inr ⟨c, (List.mem_filter.1 hc).1, rfl⟩

variable {s st}

theorem mem_sharded {u : User} (h : u ∈ s.sharded st) :
    st.population.users[u.seat]? = some u :=
  (Population.mem_select ((shardsOf_sublist _ _).subset h)).1

/-- **The tasks are handed all of the backlog, and nothing else.** -/
theorem coe_allIntakes (h : st.backlog.WellFormed) :
    ((s.allIntakes st).flatMap (·.carried) : Multiset Event) = st.backlog.events := by
  rw [takeIn_events (s.sharded st) st.backlog h, allIntakes_eq, orphans_eq, ← takeIn_rest,
    List.flatMap_append, ← Multiset.coe_add, List.flatMap_map]
  rfl

theorem allIntakes_places (h : st.Sound) {i : Intake} (hi : i ∈ s.allIntakes st) :
    i.user.place ∈ st.population.places := by
  rcases mem_allIntakes s st hi with ⟨-, hmem⟩ | ⟨c, hc, rfl⟩
  · exact Population.mem_places.2 ⟨i.user, mem_sharded hmem, rfl⟩
  · exact h.resident c hc

theorem allIntakes_ids_nodup (h : st.Sound) (hp : st.population.Distinct) :
    ((s.allIntakes st).map (·.user.id)).Nodup := by
  have hsharded : ((s.sharded st).map (·.id)).Nodup :=
    (Population.select_nodup hp h.nodup h.seated).1.sublist ((shardsOf_sublist _ _).map _)
  have husers : (takeIn (s.sharded st) st.backlog).1.map (·.user.id) =
      (s.sharded st).map (·.id) := by
    have := congrArg (List.map fun u : User => u.id) (takeIn_users (s.sharded st) st.backlog)
    rwa [List.map_map] at this
  rw [allIntakes_eq, List.map_append, husers, List.map_map, orphans_eq]
  refine List.Nodup.append hsharded ?_ fun id hid hrest => ?_
  · exact (h.backlog.filter fun c => c.user.id ∉ (s.sharded st).map (·.id)).ordered.nodup
  · obtain ⟨c, hc, rfl⟩ := List.mem_map.1 hrest
    exact of_decide_eq_true (List.mem_filter.1 hc).2 hid

/-- **Every user is handed to one task at most.** -/
theorem allIntakes_nodup (h : st.Sound) (hp : st.population.Distinct) :
    ((s.allIntakes st).map (·.user.id)).Nodup ∧ ((s.allIntakes st).map (·.user.seat)).Nodup := by
  have hids := allIntakes_ids_nodup (s := s) h hp
  refine ⟨hids, ?_⟩
  unfold List.Nodup at hids ⊢
  rw [List.pairwise_map] at hids ⊢
  refine hids.imp_of_mem fun {i j} hi hj hne hseat => hne ?_
  obtain ⟨u, hu, huid⟩ := Population.mem_places.1 (allIntakes_places h hi)
  obtain ⟨v, hv, hvid⟩ := Population.mem_places.1 (allIntakes_places h hj)
  rw [hseat, hv] at hu
  cases hu
  exact huid.symm.trans hvid

/-- **A user is handed all that the backlog holds for it.** -/
theorem carried_of_mem_allIntakes (h : st.Sound) (hp : st.population.Distinct) {i : Intake}
    (hi : i ∈ s.allIntakes st) : i.carried = st.backlog.eventsOf i.user.id := by
  rcases mem_allIntakes s st hi with ⟨hmem, -⟩ | ⟨c, hc, rfl⟩
  · refine takeIn_carried (s.sharded st) st.backlog ?_ i hmem
    exact (Population.select_nodup hp h.nodup h.seated).1.sublist ((shardsOf_sublist _ _).map _)
  · exact (Backlog.eventsOf_entry h.backlog.ordered hc).symm

/-- Everyone in the backlog is handed to a task. -/
theorem exists_intake_of_entry (s : Streamer) {st : StreamState} {c : Carried}
    (hc : c ∈ st.backlog.entries) : ∃ i ∈ s.allIntakes st, i.user.id = c.user.id := by
  rw [allIntakes_eq]
  by_cases hsharded : c.user.id ∈ (s.sharded st).map (·.id)
  · obtain ⟨u, hu, hid⟩ := List.mem_map.1 hsharded
    rw [← takeIn_users (s.sharded st) st.backlog] at hu
    obtain ⟨i, hi, rfl⟩ := List.mem_map.1 hu
    exact ⟨i, List.mem_append_left _ hi, hid⟩
  · refine ⟨⟨c.user, c.events⟩, List.mem_append_right _ (List.mem_map.2 ⟨c, ?_, rfl⟩), rfl⟩
    rw [orphans_eq]
    exact List.mem_filter.2 ⟨hc, decide_eq_true hsharded⟩

/-- A user that carries nothing in is handed over as the population has it. -/
theorem user_of_mem_allIntakes (h : st.Sound) {i : Intake} (hi : i ∈ s.allIntakes st) :
    i.carried ≠ [] ∨ st.population.users[i.user.seat]? = some i.user := by
  rcases mem_allIntakes s st hi with ⟨-, hmem⟩ | ⟨c, hc, rfl⟩
  · exact .inr (mem_sharded hmem)
  · exact .inl (h.backlog.nonempty c hc)

/-- The users of a share that generates are handed over as the population has them. -/
theorem user_of_generates {share : ShardId × List Intake × Bool} (hshare : share ∈ s.shares st)
    (hgenerates : share.2.2 = true) {i : Intake} (hi : i ∈ share.2.1) :
    st.population.users[i.user.seat]? = some i.user := by
  obtain ⟨n, intakes, hmem, rfl⟩ | ⟨-, rfl⟩ := (s.mem_shares st).1 hshare
  · have hin : i ∈ (takeIn (s.sharded st) st.backlog).1 := by
      rw [← shardIntakes_flatten]
      exact List.mem_flatten.2 ⟨intakes, List.mem_of_getElem? hmem, hi⟩
    have huser := List.mem_map_of_mem (f := fun i : Intake => i.user) hin
    rw [takeIn_users] at huser
    exact mem_sharded huser
  · cases hgenerates

/-- Every shard has its share. -/
theorem exists_share {i : Nat}
    (hi : i < min s.settings.shards (st.population.select st.active).length) :
    ∃ share ∈ s.shares st, share.1 = ⟨i⟩ := by
  rw [← length_shardIntakes] at hi
  have hmem := (s.mem_shares st).2 (.inl ⟨i, _, List.getElem?_eq_getElem hi, rfl⟩)
  exact ⟨_, hmem, rfl⟩

/-- No task is without users, and one that generates nothing has events of the backlog. -/
theorem share_ne_nil {share : ShardId × List Intake × Bool} (hshare : share ∈ s.shares st) :
    share.2.1 ≠ [] ∧ (share.2.2 = true ∨ st.backlog.entries ≠ []) := by
  obtain ⟨n, intakes, hmem, rfl⟩ | ⟨horphans, rfl⟩ := (s.mem_shares st).1 hshare
  · refine ⟨?_, .inl rfl⟩
    rintro rfl
    have hgroup := List.mem_map_of_mem (f := fun is : List Intake => is.map (·.user))
      (List.mem_of_getElem? hmem)
    rw [shardIntakes_users] at hgroup
    exact shardsOf_ne_nil _ _ _ hgroup rfl
  · refine ⟨fun hnil => horphans (List.map_eq_nil_iff.1 hnil), .inr fun hnone => horphans ?_⟩
    rw [orphans_eq, hnone, List.filter_nil]

end Streamer

/-! ## Tasks -/

theorem dispatch_shares :
    ∀ (shares : List (ShardId × List Intake × Bool)) (s : Source),
      (dispatch shares s).1.map (fun t => (t.shard, t.intakes, t.generates)) = shares
  | [], _ => rfl
  | (shard, intakes, generates) :: rest, s => by
    simp only [dispatch, List.map_cons, dispatch_shares rest]

theorem dispatch_intakes (shares : List (ShardId × List Intake × Bool)) (s : Source) :
    (dispatch shares s).1.flatMap (·.intakes) = shares.flatMap (·.2.1) := by
  conv_rhs => rw [← dispatch_shares shares s]
  rw [List.flatMap_map]

end ShopTraffic
