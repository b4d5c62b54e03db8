import ShopTraffic.Identity
import ShopTraffic.Time.Calendar

/-!
# Windows and shards

A window is a half-open interval of time with an index. Windows follow each other without a gap
while the clock is at most one window length behind; otherwise the next one starts at the clock's
reading.

* `Window.successor` — the next window, and whether it was restarted; `Window.follow` refuses the
  last index there is;
* `shardsOf` — a list cut into groups whose sizes differ by at most one.
-/

namespace ShopTraffic

/-- The events from `start` on and before `finish`. -/
structure Window where
  index : WindowIndex
  start : Instant
  finish : Instant
  deriving DecidableEq, Repr

namespace Window

/-- A window of `length` milliseconds. -/
def ofLength (index : WindowIndex) (start : Instant) (length : Nat) : Window :=
  ⟨index, start, start.plus length⟩

def contains (w : Window) (t : Instant) : Bool := w.start ≤ t ∧ t < w.finish

/-- The length in milliseconds. -/
def length (w : Window) : Nat := w.finish.since w.start

/-- The window that follows when the clock shows `now`, and whether it was restarted there. -/
def successor (w : Window) (now : Instant) : Window × Bool :=
  let index : WindowIndex := ⟨w.index.number + 1⟩
  if w.length < now.since w.finish then (ofLength index now w.length, true)
  else (ofLength index w.finish w.length, false)

/-- The successor of a window whose index has a next one. -/
def follow (w : Window) (now : Instant) : Except Crash (Window × Bool) := do
  let _ ← w.index.next
  return w.successor now

def text (w : Window) : String := s!"{w.index.text} [{w.start.text}, {w.finish.text})"

theorem contains_iff (w : Window) (t : Instant) : w.contains t ↔ w.start ≤ t ∧ t < w.finish := by
  simp [contains]

@[simp] theorem index_successor (w : Window) (now : Instant) :
    (w.successor now).1.index.number = w.index.number + 1 := by
  unfold successor; simp only; split <;> rfl

end Window

/-- Cuts groups of the given sizes off the front of a list. -/
def cutSizes {α : Type} : List Nat → List α → List (List α)
  | [], _ => []
  | n :: ns, xs => xs.take n :: cutSizes ns (xs.drop n)

/-- The sizes of `k` groups for `n` items: the first ones hold one item more. -/
def shardSizes (n k : Nat) : List Nat :=
  (List.range k).map fun i => n / k + if i < n % k then 1 else 0

/-- Splits a list into at most `shards` groups in order, none of them empty. -/
def shardsOf {α : Type} (items : List α) (shards : Nat) : List (List α) :=
  let k := min shards items.length
  cutSizes (shardSizes items.length k) items

end ShopTraffic
