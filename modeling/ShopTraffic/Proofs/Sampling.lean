import Mathlib
import ShopTraffic.Chance.Distinct

/-!
# Positions drawn are distinct

`distinct n k` draws by one of four methods. Each of them ends in `min k n` different numbers below
`n`, whatever words its source gives:

* shuffles only swap places (`shuffleFrom_perm`, `shuffleBack_perm`), so a shuffled list of different
  numbers stays one;
* the two forms that replace a repeated number differ in the order of what they draw and in nothing
  else (`floydOrdered_perm`), and the replacement is larger than all that was drawn
  (`floydCollected_spec`);
* the form that rejects repeats takes a number that is new, also when its patience ends
  (`drawNew_spec`).

Principal result: `distinct_spec`.
-/

set_option autoImplicit false

namespace ShopTraffic.Chance

/-- `xs` are `k` different numbers below `n`. -/
structure Positions (n k : Nat) (xs : List Nat) : Prop where
  nodup : xs.Nodup
  lt : ∀ i ∈ xs, i < n
  length : xs.length = k

theorem Positions.perm {n k : Nat} {xs ys : List Nat} (h : Positions n k xs) (hp : ys.Perm xs) :
    Positions n k ys :=
  ⟨hp.nodup_iff.2 h.nodup, fun i hi => h.lt i (hp.mem_iff.1 hi), hp.length_eq.trans h.length⟩

/-! ## Shuffles -/

theorem swapIfInBounds_perm {α : Type} (xs : Array α) (i j : Nat) :
    (xs.swapIfInBounds i j).toList.Perm xs.toList := by
  unfold Array.swapIfInBounds
  split
  · split
    · exact (Array.swap_perm _ _).toList
    · exact .refl _
  · exact .refl _

theorem shuffleFrom_perm (n : Nat) :
    ∀ (todo i : Nat) (xs : Array Nat) (s : Source),
      (shuffleFrom n todo i xs s).1.toList.Perm xs.toList
  | 0, _, _, _ => .refl _
  | todo + 1, i, xs, _ =>
    (shuffleFrom_perm n todo (i + 1) _ _).trans (swapIfInBounds_perm xs i _)

theorem shuffleBack_perm :
    ∀ (i : Nat) (xs : Array Nat) (s : Source), (shuffleBack i xs s).1.toList.Perm xs.toList
  | 0, _, _ => .refl _
  | i + 1, xs, _ => (shuffleBack_perm i _ _).trans (swapIfInBounds_perm xs (i + 1) _)

theorem inPlace_spec {n k : Nat} (h : k ≤ n) (s : Source) : Positions n k (inPlace n k s).1 := by
  have hp : (shuffleFrom n k 0 (Array.range n) s).1.toList.Perm (List.range n) := by
    simpa using shuffleFrom_perm n k 0 (Array.range n) s
  have hlist : (inPlace n k s).1 = (shuffleFrom n k 0 (Array.range n) s).1.toList.take k := by
    simp [inPlace]
  rw [hlist]
  refine ⟨?_, ?_, ?_⟩
  · exact (hp.nodup_iff.2 List.nodup_range).sublist (List.take_sublist _ _)
  · intro i hi
    exact List.mem_range.1 (hp.mem_iff.1 (List.mem_of_mem_take hi))
  · rw [List.length_take, hp.length_eq, List.length_range]
    omega

/-! ## One draw for each number -/

/-- A draw from zero never passes its upper end, however far that end lies. -/
theorem between_zero_le (w : Width) (high : Nat) (s : Source) : (s.between w 0 high).1 ≤ high := by
  unfold Source.between
  split
  · have := (s.below w (Nat.succ_pos (high - 0))).1.isLt
    simp only; omega
  · have := (s.word w).1.isLt
    simp only; omega

theorem insertBefore_perm {t j : Nat} :
    ∀ {xs : List Nat}, t ∈ xs → (insertBefore t j xs).Perm (j :: xs)
  | x :: xs, h => by
    unfold insertBefore
    split
    · exact .refl _
    · rename_i hne
      have hmem : t ∈ xs := (List.mem_cons.1 h).resolve_left (Ne.symm hne)
      exact ((insertBefore_perm hmem).cons x).trans (List.Perm.swap j x xs)

/-- Where a new number is put does not change which numbers are drawn. -/
theorem floydOrdered_perm :
    ∀ (js : List Nat) {drawn drawn' : List Nat} (s : Source), drawn.Perm drawn' →
      (floydOrdered js drawn s).1.Perm (floydCollected js drawn' s).1
  | [], _, _, _, h => h
  | j :: js, drawn, drawn', s, h => by
    simp only [floydOrdered, floydCollected]
    apply floydOrdered_perm js
    by_cases ht : (s.between .narrow 0 j).1 ∈ drawn
    · rw [if_pos ht, if_pos (h.mem_iff.1 ht)]
      exact (insertBefore_perm ht).trans (h.cons j)
    · rw [if_neg ht, if_neg fun h' => ht (h.mem_iff.2 h')]
      exact List.perm_append_singleton _ _ |>.trans (h.cons _)

/-- Numbers drawn lie below all numbers to come, so the one that stands in for a repeat is new. -/
theorem floydCollected_spec {n : Nat} :
    ∀ (js : List Nat) (drawn : List Nat) (s : Source), js.Pairwise (· < ·) → (∀ j ∈ js, j < n) →
      (∀ d ∈ drawn, ∀ j ∈ js, d < j) → Positions n drawn.length drawn →
      Positions n (drawn.length + js.length) (floydCollected js drawn s).1
  | [], _, _, _, _, _, h => h
  | j :: js, drawn, s, hjs, hn, hlt, h => by
    obtain ⟨hj, hjs⟩ := List.pairwise_cons.1 hjs
    have hle := between_zero_le .narrow j s
    have hjn : j < n := hn j List.mem_cons_self
    simp only [floydCollected]
    generalize hstep : (if (s.between .narrow 0 j).1 ∈ drawn then j :: drawn
      else (s.between .narrow 0 j).1 :: drawn) = drawn'
    obtain ⟨x, hx, hxj, rfl⟩ : ∃ x, x ∉ drawn ∧ x ≤ j ∧ drawn' = x :: drawn := by
      rw [← hstep]
      split
      · exact ⟨j, fun hmem => Nat.lt_irrefl j (hlt j hmem j List.mem_cons_self), Nat.le_refl j, rfl⟩
      · rename_i hnew
        exact ⟨_, hnew, hle, rfl⟩
    have hnext : Positions n (x :: drawn).length (x :: drawn) :=
      ⟨List.nodup_cons.2 ⟨hx, h.nodup⟩, fun i hi => (List.mem_cons.1 hi).elim
        (fun e => by omega) (h.lt i), rfl⟩
    have hlen : drawn.length + (j :: js).length = (x :: drawn).length + js.length := by
      simp only [List.length_cons]; omega
    rw [hlen]
    refine floydCollected_spec js (x :: drawn) _ hjs (fun i hi => hn i (List.mem_cons_of_mem _ hi))
      ?_ hnext
    intro d hd i hi
    have hji := hj i hi
    rcases List.mem_cons.1 hd with rfl | hd
    · omega
    · exact hlt d hd i (List.mem_cons_of_mem _ hi)

/-! ## Rejecting repeats -/

/-- While fewer than `n` numbers are drawn there is a new one. -/
theorem exists_new {n : Nat} {drawn : List Nat} (h : drawn.length < n) :
    ∃ i ∈ List.range n, i ∉ drawn := by
  by_contra hall
  push Not at hall
  have := (List.nodup_range.subperm hall).length_le
  rw [List.length_range] at this
  omega

theorem drawNew_spec (w : Width) {n : Nat} (h : 0 < n) (drawn : List Nat)
    (hlen : drawn.length < n) :
    ∀ (tries : Nat) (s : Source),
      (drawNew w h drawn tries s).1 ∉ drawn ∧ (drawNew w h drawn tries s).1 < n
  | 0, s => by
    obtain ⟨i, hi, hnew⟩ := exists_new hlen
    cases hfind : (List.range n).find? (· ∉ drawn) with
    | none =>
      rw [List.find?_eq_none] at hfind
      exact absurd (by simpa using hnew) (hfind i hi)
    | some x =>
      have hx := List.find?_some hfind
      have hmem := List.mem_of_find?_eq_some hfind
      simp only [drawNew, hfind, Option.getD_some]
      exact ⟨by simpa using hx, List.mem_range.1 hmem⟩
  | tries + 1, s => by
    simp only [drawNew]
    split
    · exact drawNew_spec w h drawn hlen tries _
    · rename_i hnew
      exact ⟨hnew, (s.belowExact w h).1.isLt⟩

theorem rejecting_spec (w : Width) {n : Nat} (h : 0 < n) :
    ∀ (k : Nat) (drawn : List Nat) (s : Source), drawn.length + k ≤ n →
      Positions n drawn.length drawn →
      Positions n (drawn.length + k) (rejecting w h k drawn s).1
  | 0, _, _, _, hd => hd
  | k + 1, drawn, s, hk, hd => by
    obtain ⟨hnew, hlt⟩ := drawNew_spec w h drawn (by omega) s.patience s
    have hlen : drawn.length + (k + 1) =
        ((drawNew w h drawn s.patience s).1 :: drawn).length + k := by
      simp only [List.length_cons]; omega
    simp only [rejecting]
    rw [hlen]
    refine rejecting_spec w h k _ _ (by omega) ⟨List.nodup_cons.2 ⟨hnew, hd.nodup⟩, ?_, rfl⟩
    intro i hi
    rcases List.mem_cons.1 hi with rfl | hi
    · exact hlt
    · exact hd.lt i hi

/-! ## All methods -/

theorem floydCollected_last {n k : Nat} (h : k ≤ n) (s : Source) :
    Positions n k (floydCollected ((List.range k).map (n - k + ·)) [] s).1 := by
  have := floydCollected_spec (n := n) ((List.range k).map (n - k + ·)) [] s
    (List.pairwise_map.2 (List.pairwise_lt_range.imp fun hab => by omega))
    (fun j hj => by
      obtain ⟨i, hi, rfl⟩ := List.mem_map.1 hj
      have := List.mem_range.1 hi
      omega)
    (fun d hd => absurd hd List.not_mem_nil)
    ⟨List.nodup_nil, fun i hi => absurd hi List.not_mem_nil, rfl⟩
  simpa using this

/-- **Whatever is drawn, the positions are different and as many as asked for, or all.** -/
theorem distinct_spec (n k : Nat) (s : Source) : Positions n (min k n) (distinct n k s).1 := by
  have hk : min k n ≤ n := Nat.min_le_right k n
  unfold distinct
  simp only
  generalize min k n = k at hk ⊢
  cases Method.choose n k with
  | inPlace => exact inPlace_spec hk s
  | floydOrdered =>
    exact (floydCollected_last hk s).perm (floydOrdered_perm _ s (.refl _))
  | floydShuffled =>
    refine (floydCollected_last hk s).perm ?_
    simp only [floydShuffled]
    refine (shuffleBack_perm _ _ _).trans ?_
    simp
  | rejecting =>
    simp only
    split
    · rename_i hn
      have := rejecting_spec (if n < Width.narrow.size then .narrow else .wide) hn k [] s
        (by simpa using hk)
        ⟨List.nodup_nil, fun i hi => absurd hi List.not_mem_nil, rfl⟩
      rw [List.length_nil, Nat.zero_add] at this
      exact this.perm (List.reverse_perm _)
    · refine ⟨List.nodup_nil, fun i hi => absurd hi List.not_mem_nil, ?_⟩
      rw [List.length_nil]
      omega

end ShopTraffic.Chance
