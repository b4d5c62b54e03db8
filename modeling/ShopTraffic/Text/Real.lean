import ShopTraffic.Text.Digits

/-!
# Decimal text of doubles

A finite double is `mantissa · 2^exponent` with whole numbers, so its decimal text is settled by
exact arithmetic on naturals.

* `Shortest` — the fewest digits that read back as the double, the nearest of those;
* `shortestText` — its text: positional from `1e-5` up to `1e16`, with a sign and an exponent
  elsewhere;
* `fixedText` — the exact value rounded to a number of places, a half going to the even neighbour.
-/

namespace ShopTraffic.Text

/-- The magnitude of a finite double: `mantissa · 2^exponent`. -/
structure Magnitude where
  mantissa : Nat
  exponent : Int
  /-- The next smaller double is only half as far away as the next larger one. -/
  narrowBelow : Bool
  deriving DecidableEq, Repr

/-- Splits a finite double's bits into its magnitude. -/
def Magnitude.ofBits (bits : Nat) : Magnitude :=
  let fraction : Nat := bits % 0x10000000000000
  let biased : Nat := bits / 0x10000000000000 % 2048
  if biased = 0 then ⟨fraction, -1074, false⟩
  else ⟨fraction + 0x10000000000000, (biased : Int) - 1075, fraction == 0 && biased > 1⟩

def Magnitude.ofFloat (x : Float) : Magnitude := .ofBits x.toBits.toNat

/-- A non-negative rational. -/
structure Ratio where
  num : Nat
  den : Nat
  deriving DecidableEq, Repr

/-- `n · b^e` for a whole exponent of either sign. -/
def Ratio.scaled (n b : Nat) (e : Int) : Ratio :=
  if 0 ≤ e then ⟨n * Nat.pow b e.toNat, 1⟩ else ⟨n, Nat.pow b (-e).toNat⟩

def Ratio.mul (x y : Ratio) : Ratio := ⟨x.num * y.num, x.den * y.den⟩

/-- `x < y`, decided by cross-multiplication. -/
def Ratio.lt (x y : Ratio) : Bool := x.num * y.den < y.num * x.den

def Magnitude.value (m : Magnitude) : Ratio := .scaled m.mantissa 2 m.exponent

/-- Whether a rational reads back as the double: it lies between the midpoints to the two
neighbours, and on a midpoint only where the mantissa is even. -/
def Magnitude.accepts (m : Magnitude) (x : Ratio) : Bool :=
  let low := if m.narrowBelow then Ratio.scaled (4 * m.mantissa - 1) 2 (m.exponent - 2)
    else Ratio.scaled (2 * m.mantissa - 1) 2 (m.exponent - 1)
  let high := Ratio.scaled (2 * m.mantissa + 1) 2 (m.exponent - 1)
  if m.mantissa % 2 = 0 then !x.lt low && !high.lt x else low.lt x && x.lt high

/-- The exponent `e` with `10^(e-1) ≤ value < 10^e`, for a magnitude that is not zero. -/
def Magnitude.decimalExponent (m : Magnitude) : Int :=
  let guess := ((m.mantissa.log2 : Int) + m.exponent) * 30103 / 100000
  if m.value.lt (.scaled 1 10 (guess + 1)) then guess + 1 else guess + 2

/-- Decimal digits and the power of ten of the last one. -/
structure Digits where
  digits : Nat
  power : Int
  deriving DecidableEq, Repr

/-- The neighbour of the value on the grid of the power `p` that reads back, the nearer of two. -/
def Magnitude.onGrid? (m : Magnitude) (p : Int) : Option Digits :=
  let x := m.value.mul (.scaled 1 10 (-p))
  let below := x.num / x.den
  let okBelow := below ≠ 0 ∧ m.accepts (.scaled below 10 p)
  let okAbove := m.accepts (.scaled (below + 1) 10 p)
  let twice := 2 * (x.num % x.den)
  let nearerAbove := x.den < twice ∨ (x.den = twice ∧ below % 2 = 1)
  if okBelow ∧ (¬ okAbove ∨ ¬ nearerAbove) then some ⟨below, p⟩
  else if okAbove then some ⟨below + 1, p⟩ else none

/-- The first grid of at most seventeen digits with a value that reads back. -/
def Magnitude.shortest (m : Magnitude) : Digits :=
  let e := m.decimalExponent
  ((List.range 17).findSome? fun k => m.onGrid? (e - (k + 1 : Nat))).getD ⟨0, 0⟩

/-- Drops zeros at the end of the digits. -/
def Digits.trim (d : Digits) : Digits :=
  let shown := (toString d.digits).toList
  let zeros := (shown.reverse.takeWhile (· == '0')).length
  ⟨d.digits / Nat.pow 10 zeros, d.power + zeros⟩

/-- Digits with the decimal point `point` places after the first one, for `point` in the
positional range; one digit and an exponent elsewhere. -/
def Digits.text (d : Digits) : String :=
  let shown := toString d.digits
  let point := (shown.length : Int) + d.power
  let zeros (n : Int) := String.ofList (List.replicate n.toNat '0')
  if -5 < point ∧ point ≤ 0 then "0." ++ zeros (-point) ++ shown
  else if 0 < point ∧ point ≤ 16 then
    if 0 ≤ d.power then shown ++ zeros d.power ++ ".0"
    else
      let cs := shown.toList
      String.ofList (cs.take point.toNat) ++ "." ++ String.ofList (cs.drop point.toNat)
  else
    let e := point - 1
    let sign := if e < 0 then "-" else "+"
    let tail := if shown.length = 1 then "" else "." ++ String.ofList (shown.toList.drop 1)
    String.ofList (shown.toList.take 1) ++ tail ++ "e" ++ sign ++ toString e.natAbs

/-- The shortest text that reads back as the finite double. -/
def shortestText (x : Float) : String :=
  let sign := if x.toBits.toNat < 0x8000000000000000 then "" else "-"
  let m := Magnitude.ofFloat x
  sign ++ if m.mantissa = 0 then "0.0" else m.shortest.trim.text

/-- `num / den` rounded to a whole number, a half going to the even neighbour. -/
def roundHalfEven (num den : Nat) : Nat :=
  let below := num / den
  let twice := 2 * (num % den)
  if den < twice ∨ (den = twice ∧ below % 2 = 1) then below + 1 else below

/-- A scaled whole number as text with `places` digits after the point. -/
def placesText (places scaled : Nat) : String :=
  toString (scaled / Nat.pow 10 places) ++ "." ++
    String.ofList (fixedDigits 10 places (scaled % Nat.pow 10 places))

/-- The exact value of a finite double with `places` digits after the point. -/
def fixedText (places : Nat) (x : Float) : String :=
  let sign := if x.toBits.toNat < 0x8000000000000000 then "" else "-"
  let v := (Magnitude.ofFloat x).value
  sign ++ placesText places (roundHalfEven (v.num * Nat.pow 10 places) v.den)

end ShopTraffic.Text
