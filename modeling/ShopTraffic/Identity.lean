import ShopTraffic.Chance.Source
import ShopTraffic.Crash
import ShopTraffic.Text.Digits

/-!
# Identities

* `UserId` — sixteen bytes read as one number, most significant byte first, so that the order of
  numbers is the order of bytes;
* `ShardId` — the number of a shard within a window, or the shard of carried events;
* `WindowIndex` — the number of a window within a run.
-/

namespace ShopTraffic

/-- The identity of a synthetic user. -/
structure UserId where
  number : Nat
  number_lt : number < 0x100000000000000000000000000000000 := by decide
  deriving DecidableEq, Repr

namespace UserId

/-- The identity whose number is `n`, cut to sixteen bytes. -/
def ofNat (n : Nat) : UserId := ⟨n % 0x100000000000000000000000000000000, Nat.mod_lt _ (by decide)⟩

/-- All sixteen bytes in hexadecimal. -/
def hex (u : UserId) : String := Text.hex 32 u.number

/-- The first four bytes in hexadecimal. -/
def short (u : UserId) : String := Text.hex 8 (u.number / 0x1000000000000000000000000)

/-- The identity of sixteen bytes written in hexadecimal. -/
def ofHex? (s : String) : Option UserId :=
  if s.length = 32 then (Text.digitsValue? 16 s.toList).map ofNat else none

/-- The number with its low eight bytes in the opposite order. -/
def reverseBytes (n : Nat) : Nat :=
  (List.range 8).foldl (fun acc i => acc * 256 + n / Nat.pow 256 i % 256) 0

/-- Draws sixteen bytes: the bytes of two words, the lowest byte of each first. -/
def draw (s : Chance.Source) : UserId × Chance.Source :=
  let (a, s) := s.word .wide
  let (b, s) := s.word .wide
  (ofNat (reverseBytes a.val * 0x10000000000000000 + reverseBytes b.val), s)

/-- The form used to inspect values. -/
def inspect (u : UserId) : String := s!"UserId({u.short})"

end UserId

/-- The number of a shard within its window. -/
structure ShardId where
  number : Nat
  deriving DecidableEq, Repr

namespace ShardId

/-- The number kept for the shard that only delivers carried events. -/
def carryNumber : Nat := 0xFFFFFFFFFFFFFFFF

/-- The shard that only delivers carried events. -/
def carry : ShardId := ⟨carryNumber⟩

def isCarry (s : ShardId) : Bool := s.number == carryNumber

def text (s : ShardId) : String := if s.isCarry then "Shard(carry)" else s!"Shard({s.number})"

end ShardId

/-- The number of a window within a run. -/
structure WindowIndex where
  number : Nat
  deriving DecidableEq, Repr

namespace WindowIndex

/-- The index of the next window. -/
def next (i : WindowIndex) : Except Crash WindowIndex := do
  return ⟨← checkedAdd i.number 1⟩

def text (i : WindowIndex) : String := s!"Window({i.number})"

end WindowIndex

end ShopTraffic
