/-!
# Digits

Whole numbers as text: a fixed number of digits, a least number of digits, lower-case hexadecimal.

* `fixedDigits` — the last digits of a number in a base, most significant first;
* `padded` — decimal text filled with zeros up to a width, and longer where the number is;
* `hex` — a fixed number of hexadecimal digits.
-/

namespace ShopTraffic.Text

/-- The digit `d`, lower case from ten on. -/
def digitChar (d : Nat) : Char := Nat.digitChar d

/-- The last `width` digits of `n` in base `b`, most significant first. -/
def fixedDigits (b : Nat) : Nat → Nat → List Char
  | 0, _ => []
  | width + 1, n => fixedDigits b width (n / b) ++ [digitChar (n % b)]

@[simp] theorem length_fixedDigits (b width n : Nat) : (fixedDigits b width n).length = width := by
  induction width generalizing n with
  | zero => rfl
  | succ w ih => simp [fixedDigits, ih]

/-- Decimal text of at least `width` digits. -/
def padded (width n : Nat) : String :=
  if n < Nat.pow 10 width then String.ofList (fixedDigits 10 width n) else toString n

/-- The last `width` hexadecimal digits of `n`. -/
def hex (width n : Nat) : String := String.ofList (fixedDigits 16 width n)

/-- The value of a hexadecimal digit of either case. -/
def hexValue? (c : Char) : Option Nat :=
  if '0' ≤ c ∧ c ≤ '9' then some (c.toNat - '0'.toNat)
  else if 'a' ≤ c ∧ c ≤ 'f' then some (c.toNat - 'a'.toNat + 10)
  else if 'A' ≤ c ∧ c ≤ 'F' then some (c.toNat - 'A'.toNat + 10)
  else none

/-- The value of a digit in base `b`, of either case. -/
def digitValue? (b : Nat) (c : Char) : Option Nat := (hexValue? c).filter (· < b)

/-- The number that a run of digits in base `b` spells; `none` where a character is no digit. -/
def digitsValue? (b : Nat) (cs : List Char) : Option Nat :=
  cs.foldl (fun acc c => do return (← acc) * b + (← digitValue? b c)) (some 0)

/-- A non-empty run of decimal digits as a number. -/
def decimal? : List Char → Option Nat
  | [] => none
  | cs => digitsValue? 10 cs

end ShopTraffic.Text
