import ShopTraffic.Chance.KeyStream

/-!
# Sources of random words

A source gives scripted words first and the words of a seeded stream after them. Since any finite
run draws finitely many words, a statement about every source is a statement about every sequence
of words a run can meet.

* `Source.word32`, `Source.word64` — the next word of either width;
* `Source.word` — the next word as a number below the size of its width.
-/

namespace ShopTraffic.Chance

/-- Where the random words come from. -/
structure Source where
  scripted : List UInt64
  stream : KeyStream
  deriving Repr

namespace Source

/-- The seeded stream alone. -/
def ofSeed (seed : Nat) : Source := ⟨[], .ofSeed (UInt64.ofNat seed)⟩

/-- The next 32 bits; of a scripted word the low half. -/
def word32 (s : Source) : UInt32 × Source :=
  match s.scripted with
  | w :: rest => (w.toUInt32, { s with scripted := rest })
  | [] =>
    let (w, stream) := s.stream.next
    (w, { s with stream })

/-- The next 64 bits; of the stream two words, the low half first. -/
def word64 (s : Source) : UInt64 × Source :=
  match s.scripted with
  | w :: rest => (w, { s with scripted := rest })
  | [] =>
    let (low, stream) := s.stream.next
    let (high, stream) := stream.next
    (low.toUInt64 ||| (high.toUInt64 <<< 32), { s with stream })

end Source

/-- The width of a random word. -/
inductive Width where
  | narrow
  | wide
  deriving DecidableEq, Repr

/-- How many words there are of a width. -/
def Width.size : Width → Nat
  | .narrow => 4294967296
  | .wide => 18446744073709551616

/-- The bits of a word. -/
def Width.bits : Width → Nat
  | .narrow => 32
  | .wide => 64

theorem Width.size_eq (w : Width) : w.size = Nat.pow 2 w.bits := by cases w <;> rfl

theorem Width.size_pos (w : Width) : 0 < w.size := by cases w <;> decide

/-- The next word of a width, as a number. -/
def Source.word (w : Width) (s : Source) : Fin w.size × Source :=
  match w with
  | .narrow =>
    let (v, s) := s.word32
    (⟨v.toNat, v.toNat_lt⟩, s)
  | .wide =>
    let (v, s) := s.word64
    (⟨v.toNat, v.toNat_lt⟩, s)

end ShopTraffic.Chance
