/-!
# A seeded stream of random words

The stream is that of the ChaCha cipher with eight rounds: blocks of sixteen 32-bit words, numbered
from zero, each a function of the key and its number. A seed of 64 bits is stretched to the eight
words of a key by a linear congruential generator with a permuted output.

* `KeyStream.ofSeed` — the stream of a seed;
* `KeyStream.next` — the next word.
-/

namespace ShopTraffic.Chance

/-- The sixteen words that the rounds mix. -/
abbrev Block := Vector UInt32 16

/-- `x` with its bits rotated left by `n` places. -/
def rotateLeft (x : UInt32) (n : UInt32) : UInt32 := (x <<< n) ||| (x >>> (32 - n))

/-- `x` with its bits rotated right by `n` places. -/
def rotateRight (x : UInt32) (n : UInt32) : UInt32 := (x >>> n) ||| (x <<< ((32 - n) % 32))

/-- Mixes four of the words. -/
def Block.quarterRound (s : Block) (i j k l : Fin 16) : Block :=
  let a := s[i] + s[j]
  let d := rotateLeft (s[l] ^^^ a) 16
  let c := s[k] + d
  let b := rotateLeft (s[j] ^^^ c) 12
  let a := a + b
  let d := rotateLeft (d ^^^ a) 8
  let c := c + d
  let b := rotateLeft (b ^^^ c) 7
  (((s.set i a).set j b).set k c).set l d

/-- Mixes the columns and then the diagonals of the square of words. -/
def Block.doubleRound (s : Block) : Block :=
  let s := s.quarterRound 0 4 8 12
  let s := s.quarterRound 1 5 9 13
  let s := s.quarterRound 2 6 10 14
  let s := s.quarterRound 3 7 11 15
  let s := s.quarterRound 0 5 10 15
  let s := s.quarterRound 1 6 11 12
  let s := s.quarterRound 2 7 8 13
  s.quarterRound 3 4 9 14

/-- A key of eight words. -/
abbrev Key := Vector UInt32 8

/-- The words before mixing: four constants, the key, the block's number and a nonce of zero. -/
def Block.initial (key : Key) (number : UInt64) : Block :=
  #v[0x61707865, 0x3320646e, 0x79622d32, 0x6b206574,
    key[0], key[1], key[2], key[3], key[4], key[5], key[6], key[7],
    number.toUInt32, (number >>> 32).toUInt32, 0, 0]

/-- Block `number` of a key's stream: four double rounds, and the words before mixing added. -/
def Block.ofKey (key : Key) (number : UInt64) : Block :=
  let initial := Block.initial key number
  initial.zipWith (· + ·) initial.doubleRound.doubleRound.doubleRound.doubleRound

/-- A position in the stream of a key. -/
structure KeyStream where
  key : Key
  /-- The number of the block after the current one. -/
  number : UInt64
  /-- Words of the current block that are still to come. -/
  ready : List UInt32
  deriving Repr

namespace KeyStream

/-- One step of the generator that stretches a seed, and the key word of its state. -/
def stretch (state : UInt64) : UInt32 × UInt64 :=
  let state := state * 6364136223846793005 + 11634580027462260723
  let mixed := (((state >>> 18) ^^^ state) >>> 27).toUInt32
  (rotateRight mixed (state >>> 59).toUInt32, state)

/-- The first `n` key words of a seed. -/
def stretched : Nat → UInt64 → List UInt32
  | 0, _ => []
  | n + 1, state => (stretch state).1 :: stretched n (stretch state).2

/-- The key of a seed. -/
def keyOfSeed (seed : UInt64) : Key :=
  let words := stretched 8 seed
  Vector.ofFn fun i => words.getD i 0

/-- The start of the stream of a seed. -/
def ofSeed (seed : UInt64) : KeyStream := ⟨keyOfSeed seed, 0, []⟩

/-- The next word of the stream. -/
def next (s : KeyStream) : UInt32 × KeyStream :=
  match s.ready with
  | word :: rest => (word, { s with ready := rest })
  | [] =>
    let block := Block.ofKey s.key s.number
    (block[0], { s with number := s.number + 1, ready := block.toList.tail })

end KeyStream

end ShopTraffic.Chance
