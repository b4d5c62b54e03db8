import Mathlib
import ShopTraffic.Identity

/-!
# Digits are read back

A number that is written out in digits is the value of its digits: in a fixed number of digits as
far as they reach, and in at least some number of digits also where it needs more. So different
numbers, and different identities, are different texts.

* `digitsValue?_fixedDigits`, `digitsValue?_toDigits` — the value of the digits of a number;
* `digitsValue?_hex`, `digitsValue?_padded` — the value of the text of a number;
* `padded_inj`, `UserId.ofHex?_hex`, `UserId.hex_inj` — texts that are equal are of equal numbers.
-/

set_option autoImplicit false

namespace ShopTraffic

namespace Text

variable {b d n : Nat}

/-! ## Digits -/

theorem hexValue?_digitChar : ∀ d < 16, hexValue? (digitChar d) = some d := by decide

theorem digitValue?_digitChar (hb : b ≤ 16) (hd : d < b) :
    digitValue? b (digitChar d) = some d := by
  unfold digitValue?
  rw [hexValue?_digitChar d (Nat.lt_of_lt_of_le hd hb), Option.filter_some, decide_eq_true hd]
  rfl

/-- One digit more. -/
theorem digitsValue?_snoc {cs : List Char} (hcs : digitsValue? b cs = some n) (hb : b ≤ 16)
    (hd : d < b) : digitsValue? b (cs ++ [digitChar d]) = some (n * b + d) := by
  unfold digitsValue? at hcs ⊢
  rw [List.foldl_append, hcs, List.foldl_cons, List.foldl_nil, digitValue?_digitChar hb hd]
  rfl

/-- A fixed number of digits has the value of the number as far as the digits reach. -/
theorem digitsValue?_fixedDigits (hpos : 0 < b) (hb : b ≤ 16) (width n : Nat) :
    digitsValue? b (fixedDigits b width n) = some (n % b ^ width) := by
  induction width generalizing n with
  | zero => rw [Nat.pow_zero, Nat.mod_one]; rfl
  | succ width ih =>
    rw [fixedDigits, digitsValue?_snoc (ih (n / b)) hb (Nat.mod_lt n hpos), Nat.pow_succ',
      Nat.mod_mul, Nat.mul_comm b, Nat.add_comm]

/-- All digits of a number have its value. -/
theorem digitsValue?_toDigits (n : Nat) : digitsValue? 10 (Nat.toDigits 10 n) = some n := by
  induction n using Nat.strongRecOn with
  | ind n ih =>
    rcases Nat.lt_or_ge n 10 with hlt | hge
    · rw [Nat.toDigits_of_lt_base hlt]
      have hnone : digitsValue? 10 [] = some 0 := rfl
      have hdigit := digitsValue?_snoc hnone (by decide) hlt
      rwa [Nat.zero_mul, Nat.zero_add] at hdigit
    · have hrest := ih (n / 10) (Nat.div_lt_self (by omega) (by decide))
      rw [Nat.toDigits_of_base_le (by decide) hge]
      refine (digitsValue?_snoc hrest (by decide) (Nat.mod_lt n (by decide))).trans ?_
      rw [Nat.div_add_mod']

/-! ## Texts -/

theorem digitsValue?_hex {width : Nat} (h : n < 16 ^ width) :
    digitsValue? 16 (hex width n).toList = some n := by
  unfold hex
  rw [String.toList_ofList, digitsValue?_fixedDigits (by decide) (by decide), Nat.mod_eq_of_lt h]

/-- Decimal text has the value of its number, however many digits it fills up. -/
theorem digitsValue?_padded (width n : Nat) : digitsValue? 10 (padded width n).toList = some n := by
  unfold padded
  split
  · rename_i h
    rw [String.toList_ofList, digitsValue?_fixedDigits (by decide) (by decide)]
    exact congrArg some (Nat.mod_eq_of_lt h)
  · rw [Nat.toString_eq_ofList_toDigits, String.toList_ofList, digitsValue?_toDigits]

theorem padded_inj {width m n : Nat} : padded width m = padded width n ↔ m = n := by
  refine ⟨fun h => ?_, congrArg _⟩
  have hvalue := congrArg (fun s : String => digitsValue? 10 s.toList) h
  simpa only [digitsValue?_padded, Option.some.injEq] using hvalue

end Text

/-! ## Identities -/

namespace UserId

/-- **An identity is read back from its text.** -/
theorem ofHex?_hex (u : UserId) : ofHex? u.hex = some u := by
  have hlength : u.hex.length = 32 := by
    rw [hex, Text.hex, String.length_ofList, Text.length_fixedDigits]
  have hfits : u.number < 16 ^ 32 := by
    have hlt := u.number_lt
    omega
  have hvalue : Text.digitsValue? 16 u.hex.toList = some u.number := Text.digitsValue?_hex hfits
  have hsame : ofNat u.number = u := by
    obtain ⟨number, hnumber⟩ := u
    simp only [ofNat, Nat.mod_eq_of_lt hnumber]
  unfold ofHex?
  rw [if_pos hlength, hvalue, Option.map_some, hsame]

/-- Different identities are different texts. -/
theorem hex_inj {u v : UserId} : u.hex = v.hex ↔ u = v := by
  refine ⟨fun h => ?_, congrArg hex⟩
  have hread := congrArg ofHex? h
  rwa [ofHex?_hex, ofHex?_hex, Option.some.injEq] at hread

end UserId

end ShopTraffic
