import Mathlib
import ShopTraffic.Proofs.Residents

/-!
# Samples are of different items

A sample of a list takes as many of its items as asked for, or all of them, from different
positions. Equal items at different positions are different choices: it is the position that is not
taken twice. In a population the position is the seat, so no user is in a sample twice.

* `Sample` — what a sample is: how many items, where they are from, and all of them if enough are
  asked for;
* `Positions.sample`, `Positions.perm_range` — the items at different positions are a sample, and
  as many different positions as there are are all of them;
* `sample_draws` — samples of a list and of a population.
-/

set_option autoImplicit false

namespace ShopTraffic.Chance

variable {α : Type} {items : Array α} {k n : Nat} {positions : List Nat}

/-- `drawn` is a sample of `k` of the items, or of all of them where `k` is larger. -/
structure Sample {α : Type} (items : Array α) (k : Nat) (drawn : List α) : Prop where
  length : drawn.length = min k items.size
  /-- The items are those at some positions of the list, no position twice. -/
  apart : ∃ positions : List Nat, positions.Nodup ∧ drawn.map some = positions.map (items[·]?)
  /-- If enough are asked for, every item is drawn as often as it stands in the list. -/
  all : items.size ≤ k → drawn.Perm items.toList

/-- As many different positions as there are are all positions. -/
theorem Positions.perm_range (h : Positions n n positions) : positions.Perm (List.range n) := by
  have hsub : positions.Subperm (List.range n) :=
    h.nodup.subperm fun i hi => List.mem_range.2 (h.lt i hi)
  exact hsub.perm_of_length_le (by rw [h.length, List.length_range])

/-- At positions of the list there is one item each. -/
theorem map_some_filterMap_getElem? (hin : ∀ i ∈ positions, i < items.size) :
    (positions.filterMap (items[·]?)).map some = positions.map (items[·]?) := by
  induction positions with
  | nil => rfl
  | cons i rest ih =>
    obtain ⟨hi, hrest⟩ := List.forall_mem_cons.1 hin
    rw [List.filterMap_cons, List.map_cons, Array.getElem?_eq_getElem hi, List.map_cons, ih hrest]

theorem filterMap_getElem?_range :
    (List.range items.size).filterMap (items[·]?) = items.toList := by
  apply List.map_injective_iff.2 (Option.some_injective α)
  rw [map_some_filterMap_getElem? fun i hi => List.mem_range.1 hi]
  refine List.ext_getElem (by simp) fun i hi _ => ?_
  have hin : i < items.size := by simpa using hi
  simp [hin]

/-- The items at different positions are a sample. -/
theorem Positions.sample (h : Positions items.size (min k items.size) positions) :
    Sample items k (positions.filterMap (items[·]?)) where
  length := by
    have hlength := congrArg List.length (map_some_filterMap_getElem? h.lt)
    rwa [List.length_map, List.length_map, h.length] at hlength
  apart := ⟨positions, h.nodup, map_some_filterMap_getElem? h.lt⟩
  all hk := by
    rw [Nat.min_eq_right hk] at h
    rw [← filterMap_getElem?_range]
    exact h.perm_range.filterMap _

/-- **Samples take different items.** Whatever words its source gives, a sample of a list has as
many items as asked for, or all of them, from different positions; and a sample of a population is
one of its users, of whom no two sit on one seat. -/
theorem sample_draws (k : Nat) (s : Source) :
    (∀ (α : Type) (items : Array α), Sample items k (sample items k s).1) ∧
      ∀ p : Population, Sample p.users k (p.select (p.sample k s).1) ∧
        ((p.select (p.sample k s).1).map (·.seat)).Nodup := by
  constructor
  · intro α items
    exact (distinct_spec items.size k s).sample
  · intro p
    have hpositions := distinct_spec p.size k s
    refine ⟨hpositions.sample, ?_⟩
    exact (Population.select_seats hpositions.lt).symm ▸ hpositions.nodup

end ShopTraffic.Chance
