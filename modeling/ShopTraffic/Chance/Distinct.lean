import ShopTraffic.Chance.Uniform

/-!
# Drawing distinct positions

`distinct n k` draws `k` different numbers below `n` in random order. Four methods share the work,
chosen by `n` and `k` alone:

* `inPlace` — the first `k` places of a list of all numbers that is shuffled that far;
* `floydOrdered`, `floydShuffled` — one draw for each of the last `k` numbers, which stands in for a
  number already drawn; few numbers are kept in random order on the way, many are shuffled after;
* `rejecting` — draws until a number is new.
-/

namespace ShopTraffic.Chance

/-- Shuffles the next `todo` places from `i` on, each with one that is not settled yet. -/
def shuffleFrom (n : Nat) : (todo i : Nat) → Array Nat → Source → Array Nat × Source
  | 0, _, xs, s => (xs, s)
  | todo + 1, i, xs, s =>
    let (j, s) := s.between .narrow i (n - 1)
    shuffleFrom n todo (i + 1) (xs.swapIfInBounds i j) s

/-- The first `k` places of a shuffled list of the numbers below `n`. -/
def inPlace (n k : Nat) (s : Source) : List Nat × Source :=
  let (xs, s) := shuffleFrom n k 0 (Array.range n) s
  ((xs.extract 0 k).toList, s)

/-- Puts `j` in front of the first `t`. -/
def insertBefore (t j : Nat) : List Nat → List Nat
  | [] => []
  | x :: rest => if x = t then j :: x :: rest else x :: insertBefore t j rest

/-- One draw for each of the numbers `js`; a number drawn before gives its place to the new one. -/
def floydOrdered : (js : List Nat) → (drawn : List Nat) → Source → List Nat × Source
  | [], drawn, s => (drawn, s)
  | j :: js, drawn, s =>
    let (t, s) := s.between .narrow 0 j
    let drawn := if t ∈ drawn then insertBefore t j drawn else drawn ++ [t]
    floydOrdered js drawn s

/-- One draw for each of the numbers `js`, the newest in front; for a number drawn before the new
one is taken instead. -/
def floydCollected : (js : List Nat) → (drawn : List Nat) → Source → List Nat × Source
  | [], drawn, s => (drawn, s)
  | j :: js, drawn, s =>
    let (t, s) := s.between .narrow 0 j
    floydCollected js (if t ∈ drawn then j :: drawn else t :: drawn) s

/-- Swaps each of the places `i, …, 1` with one up to it. -/
def shuffleBack : (i : Nat) → Array Nat → Source → Array Nat × Source
  | 0, xs, s => (xs, s)
  | i + 1, xs, s =>
    let (j, s) := s.between .narrow 0 (i + 1)
    shuffleBack i (xs.swapIfInBounds (i + 1) j) s

def floydShuffled (js : List Nat) (s : Source) : List Nat × Source :=
  let (drawn, s) := floydCollected js [] s
  let (xs, s) := shuffleBack (js.length - 1) drawn.reverse.toArray s
  (xs.toList, s)

/-- Draws below `n` until a number is new. After `tries` repetitions the least new number is
taken. -/
def drawNew (w : Width) {n : Nat} (h : 0 < n) (drawn : List Nat) :
    (tries : Nat) → Source → Nat × Source
  | 0, s => (((List.range n).find? (· ∉ drawn)).getD 0, s)
  | tries + 1, s =>
    let (p, s) := s.belowExact w h
    if p.val ∈ drawn then drawNew w h drawn tries s else (p.val, s)

/-- `k` more numbers that are new, the newest in front. -/
def rejecting (w : Width) {n : Nat} (h : 0 < n) :
    (k : Nat) → (drawn : List Nat) → Source → List Nat × Source
  | 0, drawn, s => (drawn, s)
  | k + 1, drawn, s =>
    let (p, s) := drawNew w h drawn s.patience s
    rejecting w h k (p :: drawn) s

/-- The ways to draw distinct numbers. -/
inductive Method where
  | inPlace
  | floydOrdered
  | floydShuffled
  | rejecting
  deriving DecidableEq, Repr

/-- The nearest whole number with no more than 24 significant binary digits, of two the even one. -/
def inSinglePrecision (n : Nat) : Nat :=
  let unit := Nat.pow 2 (n.log2 - 23)
  let up := unit < 2 * (n % unit) ∨ 2 * (n % unit) = unit ∧ n / unit % 2 = 1
  (n / unit + if up then 1 else 0) * unit

/-- Whether `n` lies below `110 / 3` times `k`, both sides and the factor in single precision. The
factor is `9611947 / 2^18`. -/
def belowRatio (n k : Nat) : Bool :=
  inSinglePrecision n * 262144 < inSinglePrecision (inSinglePrecision k * 9611947)

/-- Which way draws `k` of `n` numbers. Numbers that 32 bits do not hold are drawn with
repetition. -/
def Method.choose (n k : Nat) : Method :=
  if Width.narrow.size ≤ n then .rejecting
  else if k < 163 then
    let shuffles := if n < 500000 then 5 * n < 50 * k + 8 * k * k
      else 45 * n < 350 * k + 8 * k * k
    if 11 < k ∧ shuffles then .inPlace
    else if k < 50 then .floydOrdered else .floydShuffled
  else
    let shuffles := if n < 500000 then n < 270 * k else belowRatio n k
    if shuffles then .inPlace else .rejecting

example : Method.choose 550000 15000 = .rejecting ∧ Method.choose 550000 15001 = .inPlace := by
  decide

/-- `k` different numbers below `n` in random order; all of them where `k` is larger. -/
def distinct (n k : Nat) (s : Source) : List Nat × Source :=
  let k := min k n
  let js := (List.range k).map (n - k + ·)
  match Method.choose n k with
  | .inPlace => inPlace n k s
  | .floydOrdered => floydOrdered js [] s
  | .floydShuffled => floydShuffled js s
  | .rejecting =>
    if h : 0 < n then
      let w := if n < Width.narrow.size then .narrow else .wide
      let (drawn, s) := rejecting w h k [] s
      (drawn.reverse, s)
    else ([], s)

/-- Draws `k` different positions of a list and gives their items in the order drawn. -/
def sample {α : Type} (items : Array α) (k : Nat) (s : Source) : List α × Source :=
  let (positions, s) := distinct items.size k s
  (positions.filterMap (items[·]?), s)

end ShopTraffic.Chance
