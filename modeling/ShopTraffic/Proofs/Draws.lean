import Mathlib
import ShopTraffic.Chance.Table

/-!
# What can be drawn

A draw can give a value if there are words on which it does, whatever comes after them. Every result
of a uniform draw can be drawn, and so can every value of a choice and every entry of a table with a
weight.

* `CanDraw` — a draw can give a value, and leaves what comes after its words to the next draw;
* `exists_word_of_lt` — a word that is scaled to a given result and is kept; `scaled_giving` — what
  a draw makes of one word;
* `canDraw_below`, `canDraw_belowExact`, `canDraw_between` — uniform draws;
* `Choice.canDraw`, `Table.canDraw` — choices and tables.
-/

set_option autoImplicit false

namespace ShopTraffic.Chance

/-- The source that gives some words before its own. -/
def Source.giving (words : List UInt64) (s : Source) : Source :=
  { s with scripted := words ++ s.scripted }

theorem Source.giving_append (words more : List UInt64) (s : Source) :
    s.giving (words ++ more) = (s.giving more).giving words := by
  simp only [giving, List.append_assoc]

/-- A draw can give a value: there are words that it takes and answers with this value. -/
def CanDraw {α : Type} (draw : Source → α × Source) (a : α) : Prop :=
  ∃ words, ∀ s : Source, draw (s.giving words) = (a, s)

namespace CanDraw

variable {α β : Type} {a : α}

theorem congr {draw draw' : Source → α × Source} (h : CanDraw draw a)
    (heq : ∀ s, draw' s = draw s) : CanDraw draw' a := by
  obtain ⟨words, hwords⟩ := h
  exact ⟨words, fun s => (heq _).trans (hwords s)⟩

/-- A draw that goes on with what another one gave. -/
theorem bind {draw : Source → α × Source} {b : β} (h : CanDraw draw a)
    (next : α → Source → β × Source) (h' : CanDraw (next a) b) :
    CanDraw (fun s => next (draw s).1 (draw s).2) b := by
  obtain ⟨words, hwords⟩ := h
  obtain ⟨more, hmore⟩ := h'
  exact ⟨words ++ more, fun s => by simp only [Source.giving_append, hwords, hmore]⟩

/-- What is made of the value of a draw. -/
theorem map {draw : Source → α × Source} (h : CanDraw draw a) (f : α → β) :
    CanDraw (fun s => (f (draw s).1, (draw s).2)) (f a) := by
  obtain ⟨words, hwords⟩ := h
  exact ⟨words, fun s => by simp only [hwords]⟩

/-- A value that can be drawn is drawn from some source. -/
theorem exists_source {draw : Source → α × Source} (h : CanDraw draw a) :
    ∃ s : Source, (draw s).1 = a := by
  obtain ⟨words, hwords⟩ := h
  exact ⟨(Source.ofSeed 0).giving words, by rw [hwords]⟩

end CanDraw

/-! ## Words -/

/-- Any word of either width can come next. -/
theorem word_giving (w : Width) (v : Fin w.size) (s : Source) :
    (s.giving [UInt64.ofNat v]).word w = (v, s) := by
  cases w with
  | narrow =>
    have hlt : v.val < 4294967296 := v.isLt
    have hlow : (UInt64.ofNat v).toUInt32.toNat = v.val := by
      rw [UInt64.toNat_toUInt32, UInt64.toNat_ofNat']
      omega
    exact Prod.ext (Fin.ext hlow) rfl
  | wide =>
    have hlt : v.val < 18446744073709551616 := v.isLt
    have hwhole : (UInt64.ofNat v).toNat = v.val := by
      rw [UInt64.toNat_ofNat']
      omega
    exact Prod.ext (Fin.ext hwhole) rfl

/-- The least word that is scaled to `i` is among the first of its stretch. -/
theorem exists_word_of_lt {w : Width} {range : Nat} (h : range ≤ w.size) (i : Fin range) :
    ∃ v : Fin w.size, v.val * range / w.size = i ∧ v.val * range % w.size < range := by
  have hi : i.val < range := i.isLt
  have hpos : 0 < range := by omega
  -- Rounding `i · size / range` up leaves a low part of less than the range.
  obtain ⟨v, low, hlow, hv⟩ : ∃ v low, low < range ∧ v * range = w.size * i + low := by
    refine ⟨(w.size * i + (range - 1)) / range,
      (range - 1) - (w.size * i + (range - 1)) % range, by omega, ?_⟩
    have hdiv := Nat.div_add_mod (w.size * i + (range - 1)) range
    have hmod := Nat.mod_lt (w.size * i + (range - 1)) hpos
    rw [Nat.mul_comm] at hdiv
    omega
  have hlt : v < w.size := by
    have hnext : w.size * (i + 1) ≤ w.size * range := Nat.mul_le_mul_left _ hi
    rw [Nat.mul_succ] at hnext
    exact Nat.lt_of_mul_lt_mul_right (a := range) (by omega)
  refine ⟨⟨v, hlt⟩, ?_, ?_⟩
  · rw [hv, Nat.mul_add_div w.size_pos, Nat.div_eq_of_lt (by omega), Nat.add_zero]
  · rw [hv, Nat.mul_add_mod, Nat.mod_eq_of_lt (by omega)]
    exact hlow

/-! ## Uniform draws -/

/-- A draw on one more word keeps the word if its low part lies in the zone, and draws again if
not. -/
theorem scaled_giving {w : Width} {zone range : Nat} (hpos : 0 < range) (v : Fin w.size)
    (s : Source) :
    (s.giving [UInt64.ofNat v]).scaled w zone hpos (s.giving [UInt64.ofNat v]).patience =
      if v.val * range % w.size ≤ zone then (⟨v.val * range / w.size, scaled_lt v hpos⟩, s)
      else s.scaled w zone hpos s.patience := by
  have hpatience : (s.giving [UInt64.ofNat v]).patience = s.patience + 1 := by
    simp only [Source.patience, Source.giving, List.length_append, List.length_singleton]
    omega
  simp only [hpatience, Source.scaled, word_giving]

/-- A zone that keeps the low parts below the range keeps a word for every result. -/
theorem canDraw_scaled {w : Width} {zone range : Nat} (hpos : 0 < range) (h : range ≤ w.size)
    (hzone : range - 1 ≤ zone) (i : Fin range) :
    CanDraw (fun s => s.scaled w zone hpos s.patience) i := by
  obtain ⟨v, hdiv, hmod⟩ := exists_word_of_lt h i
  refine ⟨[UInt64.ofNat v], fun s => ?_⟩
  simp only [scaled_giving hpos v s]
  rw [if_pos (by omega)]
  exact Prod.ext (Fin.ext hdiv) rfl

theorem pred_le_shiftedZone (w : Width) {range : Nat} (hpos : 0 < range) :
    range - 1 ≤ shiftedZone w range := by
  unfold shiftedZone
  have hshift : range * 1 ≤ range * Nat.pow 2 (w.bits - 1 - range.log2) :=
    Nat.mul_le_mul_left range (Nat.two_pow_pos _)
  omega

theorem pred_le_exactZone {w : Width} {range : Nat} (h : range ≤ w.size) :
    range - 1 ≤ exactZone w range := by
  unfold exactZone
  have hmod : (w.size - range) % range ≤ w.size - range := Nat.mod_le _ _
  omega

/-- Every number below the range can be drawn. -/
theorem canDraw_below {w : Width} {range : Nat} (hpos : 0 < range) (h : range ≤ w.size)
    (i : Fin range) : CanDraw (fun s => s.below w hpos) i :=
  canDraw_scaled hpos h (pred_le_shiftedZone w hpos) i

theorem canDraw_belowExact {w : Width} {range : Nat} (hpos : 0 < range) (h : range ≤ w.size)
    (i : Fin range) : CanDraw (fun s => s.belowExact w hpos) i :=
  canDraw_scaled hpos h (pred_le_exactZone h) i

/-- Every number from `low` to `high` can be drawn. -/
theorem canDraw_between {w : Width} {low high n : Nat} (hlow : low ≤ n) (hhigh : n ≤ high)
    (h : high - low + 1 < w.size) : CanDraw (fun s => s.between w low high) n := by
  have hdraw := canDraw_below (w := w) (Nat.succ_pos (high - low)) (Nat.le_of_lt h)
    ⟨n - low, by omega⟩
  have hsum : low + (n - low) = n := by omega
  have hmap := hdraw.map fun v => low + v.val
  rw [hsum] at hmap
  refine hmap.congr fun s => ?_
  unfold Source.between
  rw [if_pos h]

/-! ## Choices and tables -/

/-- Every value of a choice can be drawn. -/
theorem Choice.canDraw {α : Type} {c : Choice α} (h : c.values.length ≤ Width.wide.size) {a : α}
    (ha : a ∈ c.values) : CanDraw c.draw a := by
  obtain ⟨i, hi, rfl⟩ := List.mem_iff_getElem.1 ha
  exact (canDraw_below c.nonempty h ⟨i, hi⟩).map fun i => c.values[i]

/-- Every entry of a table that has a weight can be drawn. -/
theorem Table.canDraw {α : Type} {t : Table α} (h : weightSum t.entries ≤ Width.narrow.size) {a : α}
    {weight : Nat} (hweight : 0 < weight) (ha : (a, weight) ∈ t.entries) : CanDraw t.draw a := by
  obtain ⟨i, hi⟩ := List.mem_iff_getElem?.1 ha
  obtain ⟨hto, hplace⟩ := place_weightSum_take hweight hi
  have hmap := (canDraw_belowExact (w := .narrow) t.positive h ⟨_, hto⟩).map fun c =>
    (t.entries.get ⟨place t.entries c, place_lt t.positive c⟩).1
  have hentry : (t.entries.get ⟨place t.entries (weightSum (t.entries.take i)),
      place_lt t.positive _⟩).1 = a := by
    obtain ⟨hlt, heq⟩ := List.getElem?_eq_some_iff.1 hi
    simp only [hplace, List.get_eq_getElem, heq]
  rw [hentry] at hmap
  exact hmap

end ShopTraffic.Chance
