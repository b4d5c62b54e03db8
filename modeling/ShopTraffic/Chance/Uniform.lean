import ShopTraffic.Chance.Source

/-!
# Uniform draws

A word `v` of a width with `size` values is scaled to `v · range / size`. The values whose low part
`v · range mod size` lies beyond a zone are drawn again, which leaves the same number of words for
every result.

* `shiftedZone`, `exactZone` — two zones: the range shifted to the full width, and the largest
  multiple of the range;
* `Source.scaled` — a draw below a range with a given zone;
* `Source.below`, `Source.between` — the draws that the rest of the library uses.

A draw tries again at most 4096 times beyond the scripted words, a bound that it reaches with a
probability below `2^-4096`, and then takes the lowest result; so draws are total.
-/

namespace ShopTraffic.Chance

/-- The last low part that is kept when the range is shifted to the full width. -/
def shiftedZone (w : Width) (range : Nat) : Nat := range * Nat.pow 2 (w.bits - 1 - range.log2) - 1

/-- The last low part that is kept when only an incomplete last stretch is refused. -/
def exactZone (w : Width) (range : Nat) : Nat := w.size - 1 - (w.size - range) % range

theorem scaled_lt {w : Width} (v : Fin w.size) {range : Nat} (h : 0 < range) :
    v.val * range / w.size < range := by
  apply Nat.div_lt_of_lt_mul
  exact Nat.mul_lt_mul_of_pos_right v.isLt h

namespace Source

/-- Draws below `range` until the low part lies in the zone. -/
def scaled (w : Width) (zone : Nat) {range : Nat} (h : 0 < range) :
    Nat → Source → Fin range × Source
  | 0, s => (⟨0, h⟩, s)
  | tries + 1, s =>
    let (v, s) := s.word w
    if v.val * range % w.size ≤ zone then (⟨v.val * range / w.size, scaled_lt v h⟩, s)
    else scaled w zone h tries s

/-- How often a draw may be repeated. -/
def patience (s : Source) : Nat := s.scripted.length + 4096

/-- A draw below `range` with the shifted zone. -/
def below (w : Width) {range : Nat} (h : 0 < range) (s : Source) : Fin range × Source :=
  s.scaled w (shiftedZone w range) h s.patience

/-- A draw below `range` with the exact zone. -/
def belowExact (w : Width) {range : Nat} (h : 0 < range) (s : Source) : Fin range × Source :=
  s.scaled w (exactZone w range) h s.patience

/-- A draw from `low` to `high`, both included; a range of all words is one plain word. -/
def between (w : Width) (low high : Nat) (s : Source) : Nat × Source :=
  if high - low + 1 < w.size then
    let (v, s) := s.below w (Nat.succ_pos (high - low))
    (low + v.val, s)
  else
    let (v, s) := s.word w
    (v.val, s)

/-- A draw from `low` to `high` with the exact zone, from 32 bits. -/
def betweenExact (low high : Nat) (s : Source) : Nat × Source :=
  let (v, s) := s.belowExact .narrow (Nat.succ_pos (high - low))
  (low + v.val, s)

/-- The low byte of a word. -/
def byte (s : Source) : Nat × Source :=
  let (v, s) := s.word .narrow
  (v.val % 256, s)

/-- True when a 64-bit word lies below `threshold`, so with probability `threshold / 2^64`. -/
def chance (threshold : Nat) (s : Source) : Bool × Source :=
  let (v, s) := s.word .wide
  (v.val < threshold, s)

end Source

theorem Source.between_mem {w : Width} {low high : Nat} (s : Source) (h : low ≤ high)
    (hh : high < w.size) :
    low ≤ (s.between w low high).1 ∧ (s.between w low high).1 ≤ high := by
  unfold Source.between
  split
  · have := (s.below w (Nat.succ_pos (high - low))).1.isLt
    simp only; omega
  · have := (s.word w).1.isLt
    simp only; omega

end ShopTraffic.Chance
