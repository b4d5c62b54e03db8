import ShopTraffic.Text.Percent
import ShopTraffic.Text.Plain

/-!
# Hosts

A host is a name, four bytes or eight groups. It is read in its plain form with its escapes decoded.
What ends in a number has to be an address of four bytes; anything else is a name, and whether there
is a host of that name is not decided here.

* `Host` — hosts; `Host.read?` — the host that a text names;
* `readBytes?`, `readGroups?` — addresses of four bytes and of eight groups;
* `Authority` — a host with a port; `Authority.read?` — the authority that a text names.
-/

namespace ShopTraffic.Ingest

/-- The far end of a connection. -/
inductive Host where
  | name (text : String)
  /-- The four bytes as one number. -/
  | bytes (number : Nat)
  | groups (groups : List Nat)
  deriving DecidableEq, Repr

/-- Splits at every separator. -/
def splitAt (isSeparator : Char → Bool) : List Char → List (List Char)
  | [] => [[]]
  | c :: cs =>
    if isSeparator c then [] :: splitAt isSeparator cs
    else
      match splitAt isSeparator cs with
      | [] => [[c]]
      | part :: parts => (c :: part) :: parts

/-! ### Four bytes -/

/-- A number in base sixteen behind `0x`, in base eight behind another zero, or in base ten. -/
def number? (cs : List Char) : Option Nat :=
  match cs with
  | [] => none
  | '0' :: 'x' :: digits | '0' :: 'X' :: digits => Text.digitsValue? 16 digits
  | '0' :: d :: digits => Text.digitsValue? 8 (d :: digits)
  | digits => Text.digitsValue? 10 digits

/-- The labels of a name; a dot at the end opens none. -/
def labels (cs : List Char) : List (List Char) :=
  let parts := splitAt (· = '.') cs
  if parts.getLast? = some [] then parts.dropLast else parts

/-- Whether the last label of a name is a number. -/
def endsInNumber (cs : List Char) : Bool :=
  (labels cs).getLast?.any fun label =>
    (!label.isEmpty && label.all Char.isDigit) || (number? label).isSome

/-- An address of up to four numbers; the last one fills the bytes that are left. -/
def readBytes? (cs : List Char) : Option Nat := do
  let numbers ← (labels cs).mapM number?
  let last ← numbers.getLast?
  let front := numbers.dropLast
  if 3 < front.length then none
  else if front.any (255 < ·) || Nat.pow 256 (4 - front.length) ≤ last then none
  else return front.foldl (fun n byte => n * 256 + byte) 0 * Nat.pow 256 (4 - front.length) + last

/-! ### Eight groups -/

/-- A group of one to four hexadecimal digits. -/
def group? (cs : List Char) : Option Nat :=
  if cs.isEmpty || 4 < cs.length then none else Text.digitsValue? 16 cs

/-- A byte in decimal digits, without zeros in front. -/
def byte? (cs : List Char) : Option Nat :=
  if cs.head? = some '0' && cs ≠ ['0'] then none else (Text.decimal? cs).filter (· ≤ 255)

/-- Groups between colons; the last ones may be written as four bytes. -/
def groups? (bytesAllowed : Bool) (cs : List Char) : Option (List Nat) :=
  let parts := splitAt (· = ':') cs
  let last := parts.getLastD []
  if bytesAllowed && last.contains '.' then
    match (splitAt (· = '.') last).mapM byte? with
    | some [a, b, c, d] => do
      return (← parts.dropLast.mapM group?) ++ [a * 256 + b, c * 256 + d]
    | _ => none
  else parts.mapM group?

/-- Splits a text at the first two colons in a row. -/
def splitGap : List Char → Option (List Char × List Char)
  | ':' :: ':' :: rest => some ([], rest)
  | [] => none
  | c :: rest => (splitGap rest).map fun (front, back) => (c :: front, back)

/-- An address of eight groups; two colons stand for at least one group of zero. -/
def readGroups? (cs : List Char) : Option (List Nat) :=
  match splitGap cs with
  | none => (groups? true cs).filter (·.length = 8)
  | some (front, back) => do
    let front ← if front.isEmpty then some [] else groups? false front
    let back ← if back.isEmpty then some [] else groups? true back
    if 7 < front.length + back.length then none
    else return front ++ List.replicate (8 - front.length - back.length) 0 ++ back

/-! ### Hosts -/

/-- The host that a text names. -/
def Host.read? (cs : List Char) : Option Host :=
  match cs with
  | '[' :: rest =>
    if rest.getLast? = some ']' then Host.groups <$> readGroups? rest.dropLast else none
  | cs => do
    let text ← String.fromUTF8? ⟨(Text.percentDecoded (String.ofList cs).toUTF8.toList).toArray⟩
    let plain := Text.folded text.toList
    if plain.isEmpty then none
    else if endsInNumber plain then Host.bytes <$> readBytes? plain
    else return .name (String.ofList plain)

/-- The four bytes of an address with dots between them. -/
def bytesText (n : Nat) : String :=
  ".".intercalate ([n / 0x1000000, n / 0x10000, n / 0x100, n].map fun b => toString (b % 256))

/-- How many groups are zero at the start of some groups. -/
def zeroCount (groups : List Nat) : Nat := (groups.takeWhile (· = 0)).length

/-- The groups of an address with colons between them; two colons stand for the first of the longest
rows of more than one zero. -/
def groupsText (groups : List Nat) : String :=
  let shown (groups : List Nat) : String :=
    ":".intercalate (groups.map fun g => String.ofList (Nat.toDigits 16 g))
  let rows := (List.range groups.length).map fun i => zeroCount (groups.drop i)
  let longest := rows.foldl max 0
  let front := rows.findIdx (· = longest)
  if longest < 2 then shown groups
  else shown (groups.take front) ++ "::" ++ shown (groups.drop (front + longest))

/-- A host as it is written in an address. -/
def Host.text : Host → String
  | .name text => text
  | .bytes n => bytesText n
  | .groups gs => "[" ++ groupsText gs ++ "]"

/-! ### Authorities -/

/-- A host with a port, where one is named. -/
structure Authority where
  host : Host
  port : Option Nat
  deriving DecidableEq, Repr

/-- The text before the first colon outside of brackets, and the text from it on. -/
def splitHost : (inBrackets : Bool) → List Char → List Char × List Char
  | _, [] => ([], [])
  | inBrackets, c :: rest =>
    if c = ':' && !inBrackets then ([], c :: rest)
    else
      let inBrackets := c = '[' || (inBrackets && c ≠ ']')
      let (host, port) := splitHost inBrackets rest
      (c :: host, port)

/-- The port behind a colon; a lone colon names none. -/
def port? : List Char → Option (Option Nat)
  | [] | [':'] => some none
  | _ :: digits => some <$> (Text.decimal? digits).filter (· ≤ 0xffff)

/-- The authority that a text names. What stands before the last `@` names a user. -/
def Authority.read? (cs : List Char) : Option Authority := do
  let (host, port) := splitHost false ((splitAt (· = '@') cs).getLastD [])
  return ⟨← Host.read? host, ← port? port⟩

end ShopTraffic.Ingest
