/-!
# Classes of characters

A class of characters is given by the ranges of its code points.

* `Ranges.holds` — whether a character lies in one of some ranges;
* `isBlank` — the characters that only separate words, in any script.
-/

namespace ShopTraffic.Text

/-- Ranges of code points, each with its first and its last one. -/
abbrev Ranges := List (Nat × Nat)

/-- Whether a character lies in one of the ranges. -/
def Ranges.holds (ranges : Ranges) (c : Char) : Bool :=
  ranges.any fun (first, last) => first ≤ c.toNat && c.toNat ≤ last

/-- Tabs and line ends, spaces of every width, and separators of lines and paragraphs. -/
def blankRanges : Ranges :=
  [(0x9, 0xd), (0x20, 0x20), (0x85, 0x85), (0xa0, 0xa0), (0x1680, 0x1680), (0x2000, 0x200a),
    (0x2028, 0x2029), (0x202f, 0x202f), (0x205f, 0x205f), (0x3000, 0x3000)]

/-- Whether a character only separates words. -/
def isBlank (c : Char) : Bool := blankRanges.holds c

end ShopTraffic.Text
