/-!
# Rests

Whoever waits rests on a timer, and no timer runs for longer than thirty years of 365 days.

* `restOf` — how long a rest takes that is asked to take some time.
-/

namespace ShopTraffic

/-- The longest rest in milliseconds. -/
def longestRest : Nat := 946080000000

/-- How many milliseconds a rest takes that is asked to take `n`. -/
def restOf (n : Nat) : Nat := min n longestRest

theorem restOf_le (n : Nat) : restOf n ≤ n := Nat.min_le_left _ _

theorem restOf_pos {n : Nat} (h : 0 < n) : 0 < restOf n := by
  unfold restOf longestRest; omega

theorem restOf_eq {n : Nat} (h : n ≤ longestRest) : restOf n = n := Nat.min_eq_left h

end ShopTraffic
