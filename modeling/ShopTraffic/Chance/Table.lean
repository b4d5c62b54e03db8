import ShopTraffic.Crash
import ShopTraffic.Chance.Uniform

/-!
# Choices and weighted tables

* `Choice` — a list that is not empty; every position is drawn with the same probability;
* `Table` — entries with weights of a positive sum; an entry is drawn in proportion to its weight;
* `boundaries`, `place` — the entries laid out one after the other, each as long as its weight: where
  each but the first begins, and the place of the entry that a position falls on;
* `place_eq_iff` — a position falls on an entry if it lies between the sum of the weights before it
  and that sum with its own.
-/

namespace ShopTraffic.Chance

/-- A uniform choice over the positions of a list. -/
structure Choice (α : Type) where
  values : List α
  nonempty : 0 < values.length
  deriving Repr

namespace Choice

/-- The choice over a list; an empty list offers none. -/
def ofList? {α : Type} (values : List α) : Option (Choice α) :=
  if h : 0 < values.length then some ⟨values, h⟩ else none

/-- Draws one of the values. -/
def draw {α : Type} (c : Choice α) (s : Source) : α × Source :=
  let (i, s) := s.below .wide c.nonempty
  (c.values[i], s)

theorem draw_mem {α : Type} (c : Choice α) (s : Source) : (c.draw s).1 ∈ c.values := by
  simp only [draw]; exact List.getElem_mem _

end Choice

/-- The sum of the weights of a list of entries. -/
def weightSum {α : Type} : List (α × Nat) → Nat
  | [] => 0
  | (_, w) :: rest => w + weightSum rest

/-- Where each entry but the first begins, when the entries are laid out from `start` on. -/
def boundaries {α : Type} : (start : Nat) → List (α × Nat) → List Nat
  | _, [] => []
  | _, [_] => []
  | start, (_, w) :: e :: rest => (start + w) :: boundaries (start + w) (e :: rest)

/-- The place of the entry that position `c` falls on. This entry ends at the first boundary beyond
`c`, and the last entry at none. -/
def place {α : Type} (entries : List (α × Nat)) (c : Nat) : Nat :=
  (boundaries 0 entries).findIdx (c < ·)

theorem length_boundaries {α : Type} (start : Nat) (entries : List (α × Nat)) :
    (boundaries start entries).length = entries.length - 1 := by
  fun_induction boundaries start entries with
  | case1 => rfl
  | case2 => rfl
  | case3 start a w e rest ih => simp [ih]

/-- No position falls beyond the entries. -/
theorem place_lt {α : Type} {entries : List (α × Nat)} (h : 0 < weightSum entries) (c : Nat) :
    place entries c < entries.length := by
  have hplace : place entries c ≤ (boundaries 0 entries).length := List.findIdx_le_length
  rw [length_boundaries] at hplace
  cases entries with
  | nil => exact absurd h (Nat.lt_irrefl 0)
  | cons e rest => simp only [List.length_cons] at hplace ⊢; omega

/-- Entries with weights, not all of them zero, of a sum that 32 bits hold. -/
structure Table (α : Type) where
  entries : List (α × Nat)
  positive : 0 < weightSum entries
  deriving Repr

namespace Table

/-- The table of a list of entries. Nothing can be drawn from a list whose weights are all zero; a
sum of weights beyond 32 bits is a crash. -/
def ofEntries {α : Type} (entries : List (α × Nat)) : Except Crash (Option (Table α)) :=
  if weightSum entries < Width.narrow.size then
    if h : 0 < weightSum entries then .ok (some ⟨entries, h⟩) else .ok none
  else .error .addOverflow

/-- Draws an entry in proportion to its weight. -/
def draw {α : Type} (t : Table α) (s : Source) : α × Source :=
  let (c, s) := s.belowExact .narrow t.positive
  ((t.entries.get ⟨place t.entries c, place_lt t.positive c⟩).1, s)

end Table

theorem weightSum_take_succ {α : Type} :
    ∀ {entries : List (α × Nat)} {i : Nat} {a : α} {w : Nat}, entries[i]? = some (a, w) →
      weightSum (entries.take (i + 1)) = weightSum (entries.take i) + w
  | (a, w) :: rest, 0, _, _, h => by
    cases h
    simp [weightSum]
  | (a, w) :: rest, i + 1, _, _, h => by
    rw [List.getElem?_cons_succ] at h
    simp only [List.take_succ_cons, weightSum, weightSum_take_succ h]
    omega

theorem weightSum_take_le {α : Type} :
    ∀ (entries : List (α × Nat)) (n : Nat), weightSum (entries.take n) ≤ weightSum entries
  | [], n => by simp
  | _ :: _, 0 => Nat.zero_le _
  | (_, w) :: rest, n + 1 => Nat.add_le_add_left (weightSum_take_le rest n) w

/-- The first boundary beyond a position ends the entry that it falls on. -/
theorem findIdx_boundaries {α : Type} (start : Nat) (entries : List (α × Nat)) {c : Nat} (i : Nat)
    (hfrom : start ≤ c) (hto : c < start + weightSum entries) :
    (boundaries start entries).findIdx (c < ·) = i ↔
      start + weightSum (entries.take i) ≤ c ∧ c < start + weightSum (entries.take (i + 1)) := by
  fun_induction boundaries start entries generalizing i with
  | case1 => simp only [weightSum] at hto; omega
  | case2 start e =>
    simp only [weightSum] at hto
    cases i with
    | zero => simp [weightSum]; omega
    | succ i => simp [weightSum]
  | case3 start a w e rest ih =>
    rw [List.findIdx_cons]
    by_cases hc : c < start + w
    · cases i with
      | zero => simp [weightSum, hc]; omega
      | succ i => simp [weightSum, hc]; omega
    · have hnext := fun i => ih i (by omega) (by simp only [weightSum] at hto ⊢; omega)
      cases i with
      | zero => simp [weightSum, hc]
      | succ i =>
        have htake : ∀ n, weightSum (((a, w) :: e :: rest).take (n + 1)) =
            w + weightSum ((e :: rest).take n) := fun _ => rfl
        rw [decide_eq_false hc, cond_false, Nat.add_right_cancel_iff, hnext i, htake, htake,
          Nat.add_assoc, Nat.add_assoc]

/-- A position falls on the entry that has its sum of weights around it. -/
theorem place_eq_iff {α : Type} {entries : List (α × Nat)} {c : Nat} (h : c < weightSum entries)
    (i : Nat) : place entries c = i ↔
      weightSum (entries.take i) ≤ c ∧ c < weightSum (entries.take (i + 1)) := by
  have hfind := findIdx_boundaries 0 entries i (Nat.zero_le c) (by omega)
  rwa [Nat.zero_add, Nat.zero_add] at hfind

/-- Where the weights before an entry end, an entry with a weight begins. -/
theorem place_weightSum_take {α : Type} {entries : List (α × Nat)} {i : Nat} {a : α} {w : Nat}
    (hw : 0 < w) (h : entries[i]? = some (a, w)) :
    weightSum (entries.take i) < weightSum entries ∧
      place entries (weightSum (entries.take i)) = i := by
  have hnext := weightSum_take_succ h
  have hall := weightSum_take_le entries (i + 1)
  have hto : weightSum (entries.take i) < weightSum entries := by omega
  exact ⟨hto, (place_eq_iff hto i).2 ⟨Nat.le_refl _, by omega⟩⟩

/-- Positions fall on entries with a weight. -/
theorem exists_weight_of_place {α : Type} {entries : List (α × Nat)} {c : Nat}
    (h : c < weightSum entries) : ∃ a w, entries[place entries c]? = some (a, w) ∧ 0 < w := by
  have hlt : place entries c < entries.length := place_lt (Nat.zero_lt_of_lt h) c
  have hentry : entries[place entries c]? =
      some (entries[place entries c].1, entries[place entries c].2) := List.getElem?_eq_getElem hlt
  obtain ⟨hfrom, hto⟩ := (place_eq_iff h _).1 rfl
  rw [weightSum_take_succ hentry] at hto
  exact ⟨_, _, hentry, by omega⟩

/-- What is drawn is the entry, of positive weight, that the drawn position falls on. -/
theorem Table.getElem?_place_draw {α : Type} (t : Table α) (s : Source) :
    ∃ w, 0 < w ∧ t.entries[place t.entries (s.belowExact .narrow t.positive).1]? =
      some ((t.draw s).1, w) := by
  obtain ⟨a, w, hentry, hw⟩ := exists_weight_of_place (s.belowExact .narrow t.positive).1.isLt
  obtain ⟨hlt, heq⟩ := List.getElem?_eq_some_iff.1 hentry
  have hdrawn : (t.draw s).1 = a := congrArg Prod.fst heq
  exact ⟨w, hw, hdrawn ▸ hentry⟩

/-- Only entries of positive weight are drawn. -/
theorem Table.draw_mem {α : Type} (t : Table α) (s : Source) :
    ∃ w, 0 < w ∧ ((t.draw s).1, w) ∈ t.entries := by
  obtain ⟨w, hw, hentry⟩ := t.getElem?_place_draw s
  exact ⟨w, hw, List.mem_of_getElem? hentry⟩

end ShopTraffic.Chance
