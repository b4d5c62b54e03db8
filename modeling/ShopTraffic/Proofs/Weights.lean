import Mathlib
import ShopTraffic.Proofs.Draws

/-!
# Tables draw by weight

A table lays its entries out one after the other and gives the entry that a position falls on. As
many positions fall on an entry as its weight says, and none on an entry without one, wherever in
the table it stands; and a draw has as many words for one position as for another.

* `boundaries_sorted`, `boundary_le_iff` — the boundaries are in order, and a place parts those up
  to a position from those beyond it, so that a search by halves ends there as well;
* `card_place` — how many positions fall on an entry;
* `wordsFor`, `card_wordsFor` — the words with which a draw gives a position, and how many they are;
* `Table.Exact`, `ofEntries_exact` — the table of any entries whose weights fit.
-/

set_option autoImplicit false

namespace ShopTraffic.Chance

/-! ## Places -/

section Places

variable {α : Type} {entries : List (α × Nat)}

theorem start_le_of_mem_boundaries {start b : Nat} (h : b ∈ boundaries start entries) :
    start ≤ b := by
  fun_induction boundaries start entries with
  | case1 => cases h
  | case2 => cases h
  | case3 start a w e rest ih =>
    rcases List.mem_cons.1 h with rfl | h
    · exact Nat.le_add_right start w
    · exact Nat.le_trans (Nat.le_add_right start w) (ih h)

theorem boundaries_sorted (start : Nat) (entries : List (α × Nat)) :
    (boundaries start entries).Pairwise (· ≤ ·) := by
  fun_induction boundaries start entries with
  | case1 => exact .nil
  | case2 => exact .nil
  | case3 start a w e rest ih =>
    exact List.pairwise_cons.2 ⟨fun b hb => start_le_of_mem_boundaries hb, ih⟩

/-- The boundaries before the place of a position are those that the position has reached. -/
theorem boundary_le_iff {c j b : Nat} (h : (boundaries 0 entries)[j]? = some b) :
    b ≤ c ↔ j < place entries c := by
  obtain ⟨hj, rfl⟩ := List.getElem?_eq_some_iff.1 h
  constructor
  · intro hle
    by_contra hplace
    have hfound : place entries c < (boundaries 0 entries).length := by omega
    have hbeyond : c < (boundaries 0 entries)[place entries c] :=
      of_decide_eq_true (List.findIdx_getElem (w := hfound))
    have hsorted : (boundaries 0 entries)[place entries c] ≤ (boundaries 0 entries)[j] :=
      (boundaries_sorted 0 entries).rel_get_of_le (a := ⟨_, hfound⟩) (b := ⟨j, hj⟩)
        (Nat.le_of_not_lt hplace)
    omega
  · intro hplace
    have hnot := List.not_of_lt_findIdx hplace
    simpa using hnot

/-- **As many positions fall on an entry as its weight says.** -/
theorem card_place {i : Nat} {a : α} {w : Nat} (h : entries[i]? = some (a, w)) :
    ((Finset.range (weightSum entries)).filter (place entries · = i)).card = w := by
  have hnext := weightSum_take_succ h
  have hall := weightSum_take_le entries (i + 1)
  have hpositions : (Finset.range (weightSum entries)).filter (place entries · = i) =
      Finset.Ico (weightSum (entries.take i)) (weightSum (entries.take i) + w) := by
    ext c
    rw [Finset.mem_filter, Finset.mem_range, Finset.mem_Ico, ← hnext]
    constructor
    · rintro ⟨hc, hplace⟩
      exact (place_eq_iff hc i).1 hplace
    · rintro ⟨hfrom, hto⟩
      have hc : c < weightSum entries := by omega
      exact ⟨hc, (place_eq_iff hc i).2 ⟨hfrom, hto⟩⟩
  rw [hpositions, Nat.card_Ico, Nat.add_sub_cancel_left]

end Places

/-! ## Words -/

/-- The words with which a draw below `range` with the exact zone gives `c`. -/
def wordsFor (w : Width) (range c : Nat) : Finset Nat :=
  (Finset.range w.size).filter fun v =>
    v * range % w.size ≤ exactZone w range ∧ v * range / w.size = c

/-- The words for `c` are scaled into one stretch, of as many whole ranges as there are. -/
theorem mem_wordsFor {w : Width} {range c v : Nat} (hpos : 0 < range) (h : range ≤ w.size)
    (hc : c < range) :
    v ∈ wordsFor w range c ↔
      c * w.size ≤ v * range ∧ v * range < c * w.size + w.size / range * range := by
  have hsize := w.size_pos
  have hdiv := Nat.div_add_mod' w.size range
  have hmod : (w.size - range) % range = w.size % range := (Nat.mod_eq_sub_mod h).symm
  have hlow := Nat.mod_lt w.size hpos
  have hsplit := Nat.div_add_mod' (v * range) w.size
  have hrest := Nat.mod_lt (v * range) hsize
  have hzone : v * range % w.size ≤ exactZone w range ↔
      v * range % w.size < w.size / range * range := by
    unfold exactZone
    rw [hmod]
    omega
  unfold wordsFor
  rw [Finset.mem_filter, Finset.mem_range, hzone]
  constructor
  · rintro ⟨-, hkept, rfl⟩
    omega
  · rintro ⟨hfrom, hto⟩
    have hvalue : v * range / w.size = c := by
      rw [Nat.div_eq_iff hsize]
      have : w.size / range * range ≤ w.size := Nat.div_mul_le_self _ _
      omega
    rw [hvalue] at hsplit
    refine ⟨?_, by omega, hvalue⟩
    have hlast : c * w.size + w.size ≤ w.size * range := by
      rw [← Nat.succ_mul, Nat.mul_comm]
      exact Nat.mul_le_mul_left _ hc
    have hle : w.size / range * range ≤ w.size := Nat.div_mul_le_self _ _
    exact Nat.lt_of_mul_lt_mul_right (a := range) (by omega)

/-- **A draw has as many words for one result as for another.** -/
theorem card_wordsFor {w : Width} {range c : Nat} (h : range ≤ w.size) (hc : c < range) :
    (wordsFor w range c).card = w.size / range := by
  have hpos : 0 < range := Nat.zero_lt_of_lt hc
  -- The first word for `c` is the least one that is scaled to `c` at all.
  have hfirst : ∀ v, c * w.size ≤ v * range ↔ c * w.size ⌈/⌉ range ≤ v := by
    intro v
    rw [ceilDiv_le_iff_le_mul hpos, Nat.mul_comm v]
  have hwords : wordsFor w range c =
      Finset.Ico (c * w.size ⌈/⌉ range) (c * w.size ⌈/⌉ range + w.size / range) := by
    ext v
    rw [mem_wordsFor hpos h hc, Finset.mem_Ico, hfirst v]
    refine and_congr_right fun _ => ?_
    rcases Nat.lt_or_ge v (w.size / range) with hlt | hge
    · have hbelow : v * range < w.size / range * range := Nat.mul_lt_mul_of_pos_right hlt hpos
      omega
    · obtain ⟨u, rfl⟩ := Nat.exists_eq_add_of_le' hge
      have hleast := hfirst u
      rw [Nat.add_mul]
      omega
  rw [hwords, Nat.card_Ico, Nat.add_sub_cancel_left]

/-- A word for a result gives it, and any other word is passed over. -/
theorem belowExact_giving {w : Width} {range : Nat} (hpos : 0 < range) (v : Fin w.size)
    (s : Source) :
    (∃ c : Fin range, v.val ∈ wordsFor w range c ∧
      (s.giving [UInt64.ofNat v]).belowExact w hpos = (c, s)) ∨
    (s.giving [UInt64.ofNat v]).belowExact w hpos = s.belowExact w hpos := by
  have hdraw := @scaled_giving w (exactZone w range) range hpos v s
  by_cases hkept : v.val * range % w.size ≤ exactZone w range
  · rw [if_pos hkept] at hdraw
    refine .inl ⟨_, ?_, hdraw⟩
    exact Finset.mem_filter.2 ⟨Finset.mem_range.2 v.isLt, hkept, rfl⟩
  · rw [if_neg hkept] at hdraw
    exact .inr hdraw

/-! ## Tables -/

/-- A table that draws the given entries exactly by their weights. -/
structure Table.Exact {α : Type} (entries : List (α × Nat)) (t : Table α) : Prop where
  entries_eq : t.entries = entries
  /-- The boundaries are in order and parted by a place, so a search finds no other. -/
  sorted : (boundaries 0 entries).Pairwise (· ≤ ·)
  parted : ∀ c j b, (boundaries 0 entries)[j]? = some b → (b ≤ c ↔ j < place entries c)
  /-- No place lies outside the table. -/
  within : ∀ c, place entries c < entries.length
  /-- What is drawn is the entry that the drawn position falls on. -/
  drawn : ∀ s, ∃ c < weightSum entries, c = (s.belowExact .narrow t.positive).1 ∧
    ∃ w, 0 < w ∧ entries[place entries c]? = some ((t.draw s).1, w)
  /-- As many positions fall on an entry as its weight says. -/
  share : ∀ i a w, entries[i]? = some (a, w) →
    ((Finset.range (weightSum entries)).filter (place entries · = i)).card = w
  /-- A word for a position gives it, and any other word is passed over. -/
  words : ∀ (v : Fin Width.narrow.size) (s : Source),
    (∃ c : Fin (weightSum t.entries), v.val ∈ wordsFor .narrow (weightSum entries) c ∧
      (s.giving [UInt64.ofNat v]).belowExact .narrow t.positive = (c, s)) ∨
    (s.giving [UInt64.ofNat v]).belowExact .narrow t.positive = s.belowExact .narrow t.positive
  /-- As many words give one position as another. -/
  even : ∀ c < weightSum entries,
    (wordsFor .narrow (weightSum entries) c).card = Width.narrow.size / weightSum entries

/-- **Weighted tables are exact.** Entries with weights of a positive sum that 32 bits hold make a
table; it never looks beyond its entries and never gives one without weight, and of the positions
that a draw can give, and so of its words, each entry has its share. -/
theorem ofEntries_exact {α : Type} (entries : List (α × Nat)) (hpos : 0 < weightSum entries)
    (hfits : weightSum entries < Width.narrow.size) :
    ∃ t, Table.ofEntries entries = .ok (some t) ∧ t.Exact entries := by
  refine ⟨⟨entries, hpos⟩, ?_, ?_⟩
  · unfold Table.ofEntries
    rw [if_pos hfits, dif_pos hpos]
  constructor
  case entries_eq => rfl
  case sorted => exact boundaries_sorted 0 entries
  case parted => exact fun c j b h => boundary_le_iff h
  case within => exact place_lt hpos
  case drawn =>
    intro s
    refine ⟨_, (s.belowExact .narrow hpos).1.isLt, rfl, ?_⟩
    exact Table.getElem?_place_draw ⟨entries, hpos⟩ s
  case share => exact fun i a w h => card_place h
  case words => exact fun v s => belowExact_giving hpos v s
  case even => exact fun c hc => card_wordsFor (Nat.le_of_lt hfits) hc

/-- Entries of which those without weight stand first, last and in a row. -/
def gaps : List (String × Nat) := [("a", 0), ("b", 2), ("c", 0), ("d", 0), ("e", 3), ("f", 0)]

theorem ofEntries_exact_gaps :
    0 < weightSum gaps ∧ weightSum gaps < Width.narrow.size ∧
      (List.range (weightSum gaps)).map (place gaps) = [1, 1, 4, 4, 4] ∧
      ∃ t, Table.ofEntries gaps = .ok (some t) ∧ t.Exact gaps := by
  have hpos : 0 < weightSum gaps := by decide
  have hfits : weightSum gaps < Width.narrow.size := by decide
  exact ⟨hpos, hfits, by decide, ofEntries_exact gaps hpos hfits⟩

end ShopTraffic.Chance
