import Mathlib
import ShopTraffic.Stream.Window

/-!
# Shards

A list is cut into shards that are as even as can be: the groups, joined, are the list, and where
they differ in size the first ones hold one item more.

* `flatten_cutSizes`, `map_length_cutSizes` — what is cut off, and in what sizes;
* `sum_shardSizes` — the groups have room for all items and no more;
* `shardsOf_sublist`, `shardsOf_ne_nil`, `map_shardsOf` — shards in general, also where none are
  asked for;
* `Parted`, `shardsOf_parted` — a list cut evenly;
* `Parted.existsUnique` — each item is in one group.
-/

set_option autoImplicit false

namespace ShopTraffic

variable {α β : Type}

/-! ## Cutting -/

/-- What is cut off the front of a list is, joined, its front. -/
theorem flatten_cutSizes :
    ∀ (sizes : List Nat) (xs : List α), (cutSizes sizes xs).flatten = xs.take sizes.sum
  | [], xs => by rw [cutSizes, List.flatten_nil, List.sum_nil, List.take_zero]
  | n :: sizes, xs => by
    rw [cutSizes, List.flatten_cons, flatten_cutSizes sizes, List.sum_cons, List.take_add]

/-- While the list lasts the groups have the sizes asked for. -/
theorem map_length_cutSizes :
    ∀ (sizes : List Nat) (xs : List α), sizes.sum ≤ xs.length →
      (cutSizes sizes xs).map List.length = sizes
  | [], _, _ => rfl
  | n :: sizes, xs, h => by
    rw [List.sum_cons] at h
    have hrest : sizes.sum ≤ (xs.drop n).length := by rw [List.length_drop]; omega
    rw [cutSizes, List.map_cons, map_length_cutSizes sizes _ hrest, List.length_take,
      Nat.min_eq_left (by omega)]

theorem map_cutSizes (f : α → β) :
    ∀ (sizes : List Nat) (xs : List α),
      (cutSizes sizes xs).map (List.map f) = cutSizes sizes (xs.map f)
  | [], _ => rfl
  | n :: sizes, xs => by
    rw [cutSizes, cutSizes, List.map_cons, map_cutSizes f sizes, List.map_take, List.map_drop]

/-! ## Sizes -/

theorem sum_range_extra (n extra : Nat) :
    ∀ k : Nat,
      ((List.range k).map fun i => n + if i < extra then 1 else 0).sum = k * n + min k extra
  | 0 => by simp
  | k + 1 => by
    rw [List.range_succ, List.map_append, List.sum_append, sum_range_extra n extra k, Nat.succ_mul]
    simp only [List.map_cons, List.map_nil, List.sum_cons, List.sum_nil]
    split <;> omega

/-- The groups have room for all items and no more. -/
theorem sum_shardSizes {n k : Nat} (hk : 0 < k) : (shardSizes n k).sum = n := by
  have hlt := Nat.mod_lt n hk
  have hdiv := Nat.div_add_mod n k
  rw [shardSizes, sum_range_extra]
  omega

theorem sum_shardSizes_le (n k : Nat) : (shardSizes n k).sum ≤ n := by
  rcases Nat.eq_zero_or_pos k with rfl | hk
  · exact Nat.zero_le n
  · exact Nat.le_of_eq (sum_shardSizes hk)

variable (items : List α) (shards : Nat)

theorem map_length_shardsOf :
    (shardsOf items shards).map List.length = shardSizes items.length (min shards items.length) :=
  map_length_cutSizes _ _ (sum_shardSizes_le _ _)

/-- There are as many shards as asked for, or as many as items. -/
theorem length_shardsOf : (shardsOf items shards).length = min shards items.length := by
  have hlength := congrArg List.length (map_length_shardsOf items shards)
  rwa [List.length_map, shardSizes, List.length_map, List.length_range] at hlength

/-! ## Shards -/

/-- No item is in two shards. -/
theorem shardsOf_sublist : (shardsOf items shards).flatten.Sublist items := by
  unfold shardsOf
  simp only
  rw [flatten_cutSizes]
  exact List.take_sublist _ _

/-- No shard is empty. -/
theorem shardsOf_ne_nil : ∀ group ∈ shardsOf items shards, group ≠ [] := by
  rintro group hgroup rfl
  have hsize := List.mem_map_of_mem (f := List.length) hgroup
  rw [map_length_shardsOf] at hsize
  obtain ⟨i, hi, hnone⟩ := List.mem_map.1 hsize
  have hk := Nat.zero_lt_of_lt (List.mem_range.1 hi)
  have hdiv : 0 < items.length / min shards items.length := Nat.div_pos (Nat.min_le_right _ _) hk
  rw [List.length_nil] at hnone
  omega

/-- What is made of each item changes nothing about the shards. -/
theorem map_shardsOf (f : α → β) :
    (shardsOf items shards).map (List.map f) = shardsOf (items.map f) shards := by
  unfold shardsOf
  simp only
  rw [map_cutSizes, List.length_map]

/-! ## Even parts -/

/-- `groups` are the items, cut in their order into at most `shards` groups as even as can be. -/
structure Parted (items : List α) (shards : Nat) (groups : List (List α)) : Prop where
  count : groups.length = min shards items.length
  joined : groups.flatten = items
  nonempty : ∀ group ∈ groups, group ≠ []
  /-- The first groups hold one item more. -/
  sizes : ∀ (i : Nat) (group : List α), groups[i]? = some group →
    group.length = items.length / groups.length + if i < items.length % groups.length then 1 else 0
  falling : (groups.map List.length).Pairwise (· ≥ ·)
  even : ∀ group ∈ groups, ∀ group' ∈ groups, group.length ≤ group'.length + 1

variable {items shards}

/-- **Shards are even parts.** -/
theorem shardsOf_parted (hpos : 0 < shards) : Parted items shards (shardsOf items shards) := by
  have hlengths := map_length_shardsOf items shards
  unfold shardSizes at hlengths
  constructor
  case count => exact length_shardsOf items shards
  case joined =>
    unfold shardsOf
    simp only
    rw [flatten_cutSizes]
    rcases Nat.eq_zero_or_pos items.length with hnone | hsome
    · rw [List.length_eq_zero_iff.1 hnone, List.take_nil]
    · rw [sum_shardSizes (Nat.lt_min.2 ⟨hpos, hsome⟩), List.take_length]
  case nonempty => exact shardsOf_ne_nil items shards
  case sizes =>
    intro i group hgroup
    have hi : i < min shards items.length :=
      length_shardsOf items shards ▸ (List.getElem?_eq_some_iff.1 hgroup).1
    have hlength := congrArg (fun sizes : List Nat => sizes[i]?) hlengths
    simp only [List.getElem?_map, hgroup, Option.map_some, List.getElem?_range hi] at hlength
    rw [length_shardsOf]
    exact Option.some.inj hlength
  case falling =>
    rw [hlengths, List.pairwise_map]
    refine List.pairwise_lt_range.imp fun {i j} hij => ?_
    split <;> split <;> omega
  case even =>
    intro group hgroup group' hgroup'
    have hsize := List.mem_map_of_mem (f := List.length) hgroup
    have hsize' := List.mem_map_of_mem (f := List.length) hgroup'
    rw [hlengths] at hsize hsize'
    obtain ⟨i, -, hi⟩ := List.mem_map.1 hsize
    obtain ⟨j, -, hj⟩ := List.mem_map.1 hsize'
    rw [← hi, ← hj]
    split <;> split <;> omega

/-- Each of different items is in one group and in no other. -/
theorem Parted.existsUnique {groups : List (List α)} (h : Parted items shards groups)
    (hitems : items.Nodup) {x : α} (hx : x ∈ items) :
    ∃! i : Nat, ∃ group, groups[i]? = some group ∧ x ∈ group := by
  rw [← h.joined] at hitems hx
  obtain ⟨group, hgroup, hmem⟩ := List.mem_flatten.1 hx
  obtain ⟨i, hi⟩ := List.mem_iff_getElem?.1 hgroup
  have hdisjoint := List.pairwise_iff_getElem.1 (List.nodup_flatten.1 hitems).2
  refine ⟨i, ⟨group, hi, hmem⟩, ?_⟩
  rintro j ⟨group', hj, hmem'⟩
  obtain ⟨hin, rfl⟩ := List.getElem?_eq_some_iff.1 hi
  obtain ⟨hjn, rfl⟩ := List.getElem?_eq_some_iff.1 hj
  by_contra hne
  rcases Nat.lt_or_gt_of_ne hne with hlt | hlt
  · exact hdisjoint j i hjn hin hlt hmem' hmem
  · exact hdisjoint i j hin hjn hlt hmem hmem'

end ShopTraffic
