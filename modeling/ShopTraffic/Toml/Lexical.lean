import ShopTraffic.Text.Digits

/-!
# Words of TOML

Readers of the parts of a document that hold no values inside them. Each takes a list of characters
and gives what it read with the characters left, or nothing.

* `skipSpace`, `comment`, `lineEnd?` — blanks, comments and the ends of lines;
* `key?` — a key with dots; `string?` — a string in any of its four forms;
* `number?` — a whole number or one with a fraction; `datetime?` — a date, a time or both.
-/

namespace ShopTraffic.Toml

/-- A blank within a line. -/
def isSpace (c : Char) : Bool := c == ' ' || c == '\t'

def skipSpace (cs : List Char) : List Char := cs.dropWhile isSpace

/-- Whether a character may stand in a comment and, quotes and backslashes aside, in a string. -/
def isPlain (c : Char) : Bool := c == '\t' || (0x20 ≤ c.toNat && c.toNat ≠ 0x7f)

/-- The rest after the end of a line. -/
def newline? : List Char → Option (List Char)
  | '\n' :: rest => some rest
  | '\r' :: '\n' :: rest => some rest
  | _ => none

/-- The rest after a comment, if there is one. -/
def comment (cs : List Char) : List Char :=
  match cs with
  | '#' :: rest => rest.dropWhile isPlain
  | cs => cs

/-- The rest after blanks, a comment and the end of a line or of the document. -/
def lineEnd? (cs : List Char) : Option (List Char) :=
  match comment (skipSpace cs) with
  | [] => some []
  | cs => newline? cs

/-- The rest after blanks, comments and ends of lines, as they may stand within an array. -/
def skipLines : (fuel : Nat) → List Char → List Char
  | 0, cs => cs
  | fuel + 1, cs =>
    match comment (skipSpace cs) with
    | [] => []
    | cs =>
      match newline? cs with
      | some rest => skipLines fuel rest
      | none => cs

/-! ## Strings -/

/-- A character spelt by a number of hexadecimal digits. -/
def codePoint? (count : Nat) (cs : List Char) : Option (Char × List Char) := do
  let digits := cs.take count
  if digits.length ≠ count then none
  let n ← Text.digitsValue? 16 digits
  if n.isValidChar then some (Char.ofNat n, cs.drop count) else none

/-- A character spelt after a backslash. -/
def escape? : List Char → Option (Char × List Char)
  | 'b' :: rest => some ('\x08', rest)
  | 't' :: rest => some ('\t', rest)
  | 'n' :: rest => some ('\n', rest)
  | 'f' :: rest => some ('\x0c', rest)
  | 'r' :: rest => some ('\r', rest)
  | '"' :: rest => some ('"', rest)
  | '\\' :: rest => some ('\\', rest)
  | 'u' :: rest => codePoint? 4 rest
  | 'U' :: rest => codePoint? 8 rest
  | _ => none

/-- The rest after blanks and ends of lines. -/
def skipBlankLines : (fuel : Nat) → List Char → List Char
  | 0, cs => cs
  | fuel + 1, cs =>
    match newline? (skipSpace cs) with
    | some rest => skipBlankLines fuel rest
    | none => skipSpace cs

/-- The rest after a backslash at the end of a line: all blanks and ends of lines that follow. -/
def lineBreak? (cs : List Char) : Option (List Char) := do
  let rest ← newline? (skipSpace cs)
  return skipBlankLines (rest.length + 1) rest

/-- The end of a string of several lines: a run of quotes, of which the last three close it and up
to two more belong to it. Gives the quotes that belong to it. -/
def closing? (quote : Char) (cs : List Char) : Option (List Char × List Char) :=
  let run := (cs.takeWhile (· == quote)).length
  if 3 ≤ run ∧ run ≤ 5 then some (List.replicate (run - 3) quote, cs.drop run) else none

/-- The characters of a basic string after its opening quotes. -/
def basic? (lines : Bool) : (fuel : Nat) → List Char → Option (List Char × List Char)
  | 0, _ => none
  | _ + 1, [] => none
  | fuel + 1, '"' :: rest =>
    if lines then
      if rest.take 2 = ['"', '"'] then closing? '"' ('"' :: rest)
      else do
        let (chars, rest) ← basic? lines fuel rest
        return ('"' :: chars, rest)
    else some ([], rest)
  | fuel + 1, '\\' :: rest => do
    match if lines then lineBreak? rest else none with
    | some rest => basic? lines fuel rest
    | none =>
      let (c, rest) ← escape? rest
      let (chars, rest) ← basic? lines fuel rest
      return (c :: chars, rest)
  | fuel + 1, c :: rest => do
    if isPlain c then
      let (chars, rest) ← basic? lines fuel rest
      return (c :: chars, rest)
    else if lines then
      let (chars, rest) ← basic? lines fuel (← newline? (c :: rest))
      return ('\n' :: chars, rest)
    else none

/-- The characters of a literal string after its opening quotes. -/
def literal? (lines : Bool) : (fuel : Nat) → List Char → Option (List Char × List Char)
  | 0, _ => none
  | _ + 1, [] => none
  | fuel + 1, '\x27' :: rest =>
    if lines then
      if rest.take 2 = ['\x27', '\x27'] then closing? '\x27' ('\x27' :: rest)
      else do
        let (chars, rest) ← literal? lines fuel rest
        return ('\x27' :: chars, rest)
    else some ([], rest)
  | fuel + 1, c :: rest => do
    if isPlain c then
      let (chars, rest) ← literal? lines fuel rest
      return (c :: chars, rest)
    else if lines then
      let (chars, rest) ← literal? lines fuel (← newline? (c :: rest))
      return ('\n' :: chars, rest)
    else none

/-- The rest after the end of the line that opens a string of several lines, if it ends there. -/
def afterOpening (cs : List Char) : List Char := (newline? cs).getD cs

/-- A string on one line. -/
def lineString? : List Char → Option (String × List Char)
  | '"' :: rest => (basic? false (rest.length + 1) rest).map fun (cs, rest) => (String.ofList cs, rest)
  | '\x27' :: rest =>
    (literal? false (rest.length + 1) rest).map fun (cs, rest) => (String.ofList cs, rest)
  | _ => none

/-- A string in any form. -/
def string? (cs : List Char) : Option (String × List Char) :=
  match cs with
  | '"' :: '"' :: '"' :: rest =>
    (basic? true (rest.length + 1) (afterOpening rest)).map fun (cs, rest) => (String.ofList cs, rest)
  | '\x27' :: '\x27' :: '\x27' :: rest =>
    (literal? true (rest.length + 1) (afterOpening rest)).map fun (cs, rest) =>
      (String.ofList cs, rest)
  | cs => lineString? cs

/-! ## Keys -/

def isBareKey (c : Char) : Bool :=
  c.isAlphanum || c == '_' || c == '-'

/-- One part of a key. -/
def keyPart? (cs : List Char) : Option (String × List Char) :=
  match cs with
  | '"' :: _ | '\x27' :: _ => lineString? cs
  | cs =>
    match cs.takeWhile isBareKey with
    | [] => none
    | word => some (String.ofList word, cs.dropWhile isBareKey)

/-- The parts of a key with dots, with blanks around each. -/
def keyParts? : (fuel : Nat) → List Char → Option (List String × List Char)
  | 0, _ => none
  | fuel + 1, cs => do
    let (part, rest) ← keyPart? (skipSpace cs)
    match skipSpace rest with
    | '.' :: rest =>
      let (parts, rest) ← keyParts? fuel rest
      return (part :: parts, rest)
    | rest => return ([part], rest)

/-- The most levels that keys and values may be deep. -/
def depthLimit : Nat := 80

/-- A key with dots: the parts before the last one, and the last one. -/
def key? (cs : List Char) : Option ((List String × String) × List Char) := do
  let (parts, rest) ← keyParts? (cs.length + 1) cs
  if depthLimit ≤ parts.length then none
  else return ((parts.dropLast, parts.getLastD ""), rest)

/-! ## Numbers -/

/-- Whether a character is a digit of a base. -/
def isDigit (base : Nat) (c : Char) : Bool := (Text.digitValue? base c).isSome

/-- The digits after a first one; an underscore must stand between two digits. -/
def moreDigits? (base : Nat) : List Char → Option (List Char × List Char)
  | [] => some ([], [])
  | ['_'] => none
  | '_' :: d :: rest =>
    if isDigit base d then (moreDigits? base rest).map fun (ds, rest) => (d :: ds, rest) else none
  | c :: rest =>
    if isDigit base c then (moreDigits? base rest).map fun (ds, rest) => (c :: ds, rest)
    else some ([], c :: rest)

/-- Digits of a base, single underscores between them. Gives the digits alone. -/
def digits? (base : Nat) : List Char → Option (List Char × List Char)
  | [] => none
  | c :: rest =>
    if isDigit base c then (moreDigits? base rest).map fun (ds, rest) => (c :: ds, rest) else none

/-- A sign, if there is one: whether it is a minus. -/
def sign : List Char → Bool × List Char
  | '-' :: rest => (true, rest)
  | '+' :: rest => (false, rest)
  | cs => (false, cs)

/-- A number as it is written. -/
inductive Number where
  | whole (n : Int)
  | real (text : String)
  deriving DecidableEq, Repr

/-- The whole numbers of 64 bits. -/
def inRange (n : Int) : Bool := -0x8000000000000000 ≤ n && n < 0x8000000000000000

/-- A fraction after its point, if there is one. -/
def fraction? : List Char → Option (Option (List Char) × List Char)
  | '.' :: rest => (digits? 10 rest).map fun (ds, rest) => (some ds, rest)
  | cs => some (none, cs)

/-- An exponent, if there is one. -/
def exponent? : List Char → Option (Option Int × List Char)
  | c :: rest =>
    if c = 'e' ∨ c = 'E' then do
      let (negative, rest) := sign rest
      let (ds, rest) ← digits? 10 rest
      let n ← Text.decimal? ds
      return (some (if negative then -(n : Int) else n), rest)
    else some (none, c :: rest)
  | [] => some (none, [])

/-- Whether digits and a power of ten lie beyond the largest double. -/
def overflows (mantissa : Nat) (power : Int) : Bool :=
  let largest := Nat.pow 2 1024 - Nat.pow 2 970
  if mantissa = 0 then false
  else if 400 < power then true
  else if 0 ≤ power then largest ≤ mantissa * Nat.pow 10 power.toNat
  else
    let places := power.natAbs
    if (toString mantissa).length < places then false
    else largest * Nat.pow 10 places ≤ mantissa

/-- A decimal number after its sign. -/
def decimal? (negative : Bool) (cs : List Char) : Option (Number × List Char) := do
  let (whole, rest) ← match cs with
    | '0' :: rest => some (['0'], rest)
    | cs => digits? 10 cs
  let (frac, rest) ← fraction? rest
  let (power, rest) ← exponent? rest
  if frac.isNone ∧ power.isNone then
    let n ← Text.decimal? whole
    let n : Int := if negative then -(n : Int) else n
    if inRange n then return (.whole n, rest) else none
  else
    let frac := frac.getD []
    let mantissa ← Text.decimal? (whole ++ frac)
    let power := power.getD 0
    if !negative && overflows mantissa (power - frac.length) then none
    else
      let text := (if negative then "-" else "") ++ String.ofList whole ++ "." ++
        String.ofList frac ++ "e" ++ toString power
      return (.real text, rest)

/-- A whole number behind a mark of its base. -/
def based? (base : Nat) (cs : List Char) : Option (Number × List Char) := do
  let (ds, rest) ← digits? base cs
  let n : Int ← (Text.digitsValue? base ds).map (fun n => (n : Int))
  if inRange n then return (.whole n, rest) else none

/-- A number in any form. -/
def number? (cs : List Char) : Option (Number × List Char) :=
  match cs with
  | '0' :: 'x' :: rest => based? 16 rest
  | '0' :: 'o' :: rest => based? 8 rest
  | '0' :: 'b' :: rest => based? 2 rest
  | cs =>
    let (negative, rest) := sign cs
    let mark := if negative then "-" else ""
    match rest with
    | 'i' :: 'n' :: 'f' :: rest => some (.real (mark ++ "inf"), rest)
    | 'n' :: 'a' :: 'n' :: rest => some (.real (mark ++ "nan"), rest)
    | rest => decimal? negative rest

/-! ## Dates and times -/

/-- A number of exactly `count` digits within bounds. -/
def field? (count low high : Nat) (cs : List Char) : Option (Nat × List Char) := do
  let ds := cs.take count
  if ds.length ≠ count then none
  let n ← Text.decimal? ds
  if low ≤ n ∧ n ≤ high then some (n, cs.drop count) else none

/-- The rest after one given character. -/
def after? (c : Char) : List Char → Option (List Char)
  | d :: rest => if c = d then some rest else none
  | [] => none

/-- The days of a month. -/
def daysInMonth (year month : Nat) : Nat :=
  if month = 2 then
    if (year % 4 = 0 ∧ year % 100 ≠ 0) ∨ year % 400 = 0 then 29 else 28
  else if month = 4 ∨ month = 6 ∨ month = 9 ∨ month = 11 then 30 else 31

/-- The rest after a date. -/
def date? (cs : List Char) : Option (List Char) := do
  let (year, rest) ← field? 4 0 9999 cs
  let (month, rest) ← field? 2 1 12 (← after? '-' rest)
  let (_, rest) ← field? 2 1 (daysInMonth year month) (← after? '-' rest)
  return rest

/-- The rest after a time of day. -/
def time? (cs : List Char) : Option (List Char) := do
  let (_, rest) ← field? 2 0 23 cs
  let (_, rest) ← field? 2 0 59 (← after? ':' rest)
  let (_, rest) ← field? 2 0 60 (← after? ':' rest)
  match rest with
  | '.' :: d :: rest => if d.isDigit then return rest.dropWhile Char.isDigit else none
  | '.' :: [] => none
  | rest => return rest

/-- The rest after the offset of a time, if there is one. -/
def offset? : List Char → Option (List Char)
  | 'Z' :: rest => some rest
  | 'z' :: rest => some rest
  | c :: rest =>
    if c = '+' ∨ c = '-' then do
      let (_, rest) ← field? 2 0 23 rest
      let (_, rest) ← field? 2 0 59 (← after? ':' rest)
      return rest
    else some (c :: rest)
  | [] => some []

/-- The rest after a date, a time or both. -/
def afterDatetime? (cs : List Char) : Option (List Char) :=
  match date? cs with
  | some (c :: rest) =>
    if c = 'T' ∨ c = 't' ∨ c = ' ' then
      match time? rest with
      | some rest => offset? rest
      | none => some (c :: rest)
    else some (c :: rest)
  | some [] => some []
  | none => time? cs

/-- A date, a time or both, as it is written. -/
def datetime? (cs : List Char) : Option (String × List Char) := do
  let rest ← afterDatetime? cs
  return (String.ofList (cs.take (cs.length - rest.length)), rest)

end ShopTraffic.Toml
