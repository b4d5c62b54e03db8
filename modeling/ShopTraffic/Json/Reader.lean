import ShopTraffic.Json.Value

/-!
# Reading JSON text

* `Json.read?` — the value that a whole text spells. A number without fraction and exponent is a
  whole one if it fits 64 bits; members keep the order of their keys, and of two members with one
  key the later one stays.

Readers take a list of characters and return what they read with the characters left; the fuel of
the nested readers is the length of the text, which every step shortens.
-/

namespace ShopTraffic.Json.Reader

def isBlank (c : Char) : Bool := c == ' ' || c == '\t' || c == '\n' || c == '\r'

def skipBlanks (cs : List Char) : List Char := cs.dropWhile isBlank

/-- The rest after a fixed word. -/
def afterWord? : List Char → List Char → Option (List Char)
  | [], cs => some cs
  | w :: ws, c :: cs => if w = c then afterWord? ws cs else none
  | _ :: _, [] => none

/-- A run of decimal digits and the rest. -/
def digits (cs : List Char) : List Char × List Char :=
  (cs.takeWhile Char.isDigit, cs.dropWhile Char.isDigit)

/-- Four hexadecimal digits. -/
def unit? : List Char → Option (Nat × List Char)
  | a :: b :: c :: d :: rest => do return (← Text.digitsValue? 16 [a, b, c, d], rest)
  | _ => none

/-- The code point of a `u` escape, a pair of escapes where the first is a leading half. -/
def codePoint? (cs : List Char) : Option (Nat × List Char) := do
  let (first, rest) ← unit? cs
  if 0xD800 ≤ first ∧ first < 0xDC00 then
    let (second, rest) ← unit? (← afterWord? ['\\', 'u'] rest)
    if 0xDC00 ≤ second ∧ second < 0xE000 then
      some (0x10000 + (first - 0xD800) * 0x400 + (second - 0xDC00), rest)
    else none
  else if 0xDC00 ≤ first ∧ first < 0xE000 then none
  else some (first, rest)

/-- The characters of a string after its opening quote. -/
def string? : Nat → List Char → Option (List Char × List Char)
  | 0, _ => none
  | _ + 1, [] => none
  | _ + 1, '"' :: rest => some ([], rest)
  | fuel + 1, '\\' :: c :: rest => do
    let (char, rest) ← match c with
      | '"' | '\\' | '/' => some (c, rest)
      | 'b' => some ('\x08', rest)
      | 't' => some ('\t', rest)
      | 'n' => some ('\n', rest)
      | 'f' => some ('\x0c', rest)
      | 'r' => some ('\r', rest)
      | 'u' => (codePoint? rest).map fun (n, rest) => (Char.ofNat n, rest)
      | _ => none
    let (chars, rest) ← string? fuel rest
    return (char :: chars, rest)
  | fuel + 1, c :: rest =>
    if c.toNat < 0x20 then none
    else do
      let (chars, rest) ← string? fuel rest
      return (c :: chars, rest)

/-- The double of a sign, decimal digits and a power of ten. -/
def double (negative : Bool) (mantissa : Nat) (power : Int) : Float :=
  let x := if 0 ≤ power then Float.ofScientific mantissa false power.toNat
    else Float.ofScientific mantissa true power.natAbs
  if negative then -x else x

/-- A fraction after its point, as digits. -/
def fraction? : List Char → Option (List Char × List Char)
  | '.' :: cs =>
    match digits cs with
    | ([], _) => none
    | found => some found
  | cs => some ([], cs)

/-- An exponent, if there is one. -/
def exponent? : List Char → Option (Option Int × List Char)
  | c :: cs =>
    if c = 'e' ∨ c = 'E' then
      let (negative, cs) := match cs with
        | '-' :: cs => (true, cs)
        | '+' :: cs => (false, cs)
        | cs => (false, cs)
      match digits cs with
      | ([], _) => none
      | (ds, rest) => do
        let n ← Text.decimal? ds
        return (some (if negative then -(n : Int) else n), rest)
    else some (none, c :: cs)
  | [] => some (none, [])

/-- A number. -/
def number? (cs : List Char) : Option (Json × List Char) := do
  let (negative, cs) := match cs with
    | '-' :: cs => (true, cs)
    | cs => (false, cs)
  let (whole, cs) := digits cs
  if whole.length ≠ 1 ∧ whole.head? = some '0' then none
  let n ← Text.decimal? whole
  let (frac, cs) ← fraction? cs
  let (power, rest) ← exponent? cs
  if frac.isEmpty ∧ power.isNone ∧ ¬ (negative ∧ n = 0) then
    if ¬ negative ∧ n < 0x10000000000000000 then return (.int n, rest)
    if negative ∧ n ≤ 0x8000000000000000 then return (.int (-(n : Int)), rest)
  let mantissa ← Text.decimal? (whole ++ frac)
  return (.real (double negative mantissa (power.getD 0 - frac.length)), rest)

mutual

/-- A value, with no blanks before it. -/
def value? : Nat → List Char → Option (Json × List Char)
  | 0, _ => none
  | fuel + 1, cs =>
    match cs with
    | 'n' :: _ => do return (.null, ← afterWord? ['n', 'u', 'l', 'l'] cs)
    | 't' :: _ => do return (.bool true, ← afterWord? ['t', 'r', 'u', 'e'] cs)
    | 'f' :: _ => do return (.bool false, ← afterWord? ['f', 'a', 'l', 's', 'e'] cs)
    | '"' :: rest => do
      let (chars, rest) ← string? (rest.length + 1) rest
      return (.str (String.ofList chars), rest)
    | '[' :: rest =>
      match skipBlanks rest with
      | ']' :: rest => some (.arr [], rest)
      | rest => do
        let (items, rest) ← items? fuel rest
        return (.arr items, rest)
    | '\x7b' :: rest =>
      match skipBlanks rest with
      | '\x7d' :: rest => some (.obj [], rest)
      | rest => do
        let (members, rest) ← members? fuel rest
        return (.obj (Fields.ofList members), rest)
    | cs => number? cs

/-- The items of an array up to its closing bracket. -/
def items? : Nat → List Char → Option (List Json × List Char)
  | 0, _ => none
  | fuel + 1, cs => do
    let (v, rest) ← value? fuel cs
    match skipBlanks rest with
    | ']' :: rest => return ([v], rest)
    | ',' :: rest =>
      let (vs, rest) ← items? fuel (skipBlanks rest)
      return (v :: vs, rest)
    | _ => none

/-- The members of an object up to its closing brace. -/
def members? : Nat → List Char → Option (List (String × Json) × List Char)
  | 0, _ => none
  | fuel + 1, cs =>
    match cs with
    | '"' :: rest => do
      let (key, rest) ← string? (rest.length + 1) rest
      match skipBlanks rest with
      | ':' :: rest =>
        let (v, rest) ← value? fuel (skipBlanks rest)
        let member := (String.ofList key, v)
        match skipBlanks rest with
        | '\x7d' :: rest => return ([member], rest)
        | ',' :: rest =>
          let (ms, rest) ← members? fuel (skipBlanks rest)
          return (member :: ms, rest)
        | _ => none
      | _ => none
    | _ => none

end

end Reader

/-- The value that a whole text spells. -/
def read? (s : String) : Option Json := do
  let cs := s.toList
  let (v, rest) ← Reader.value? (2 * cs.length + 1) (Reader.skipBlanks cs)
  if (Reader.skipBlanks rest).isEmpty then some v else none

end ShopTraffic.Json
