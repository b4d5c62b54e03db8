import ShopTraffic.Toml.Document
import ShopTraffic.Toml.Lexical

/-!
# Reading TOML

* `value?` — one value, arrays and tables on one line included;
* `read?` — the entries of a whole document.

The readers of nested values run on fuel, the length of the text, which every step shortens. Values
nest less than eighty deep.
-/

namespace ShopTraffic.Toml

/-- The rest after a fixed word. -/
def afterWord? : List Char → List Char → Option (List Char)
  | [], cs => some cs
  | w :: ws, c :: cs => if w = c then afterWord? ws cs else none
  | _ :: _, [] => none

/-- A number or a date. -/
def numeric? (cs : List Char) : Option (Value × List Char) :=
  match datetime? cs with
  | some (text, rest) => some (.datetime text, rest)
  | none =>
    (number? cs).map fun (n, rest) =>
      match n with
      | .whole n => (.integer n, rest)
      | .real text => (.float text, rest)

mutual

/-- A value with no blanks before it, `depth` levels deep. -/
def value? (depth : Nat) : (fuel : Nat) → List Char → Option (Value × List Char)
  | 0, _ => none
  | fuel + 1, cs =>
    match cs with
    | '"' :: _ | '\x27' :: _ => (string? cs).map fun (s, rest) => (.string s, rest)
    | 't' :: _ => do return (.boolean true, ← afterWord? ['t', 'r', 'u', 'e'] cs)
    | 'f' :: _ => do return (.boolean false, ← afterWord? ['f', 'a', 'l', 's', 'e'] cs)
    | '[' :: rest =>
      if depthLimit ≤ depth + 1 then none
      else do
        let (items, rest) ← items? (depth + 1) fuel rest
        return (.array items, rest)
    | '\x7b' :: rest =>
      if depthLimit ≤ depth + 1 then none
      else
        match skipSpace rest with
        | '\x7d' :: rest => some (.table [], rest)
        | rest => do
          let (entries, rest) ← members? (depth + 1) fuel [] rest
          return (.table (Node.values entries), rest)
    | cs => numeric? cs

/-- The items of an array up to its closing bracket; a comma may follow the last one. -/
def items? (depth : Nat) : (fuel : Nat) → List Char → Option (List Value × List Char)
  | 0, _ => none
  | fuel + 1, cs =>
    match skipLines (cs.length + 1) cs with
    | ']' :: rest => some ([], rest)
    | cs => do
      let (v, rest) ← value? depth fuel cs
      match skipLines (rest.length + 1) rest with
      | ']' :: rest => return ([v], rest)
      | ',' :: rest =>
        let (vs, rest) ← items? depth fuel rest
        return (v :: vs, rest)
      | _ => none

/-- The members of a table on one line up to its closing brace. -/
def members? (depth : Nat) : (fuel : Nat) → Entries → List Char → Option (Entries × List Char)
  | 0, _, _ => none
  | fuel + 1, entries, cs => do
    let ((path, key), rest) ← key? cs
    let rest ← after? '=' rest
    let (v, rest) ← value? depth fuel (skipSpace rest)
    let entries ← entries.insert? key v path
    match skipSpace rest with
    | '\x7d' :: rest => return (entries, rest)
    | ',' :: rest => members? depth fuel entries rest
    | _ => none

end

/-- A document as far as it is read: its entries, and the table that lines add to. -/
structure Draft where
  entries : Entries := []
  current : List String := []
  deriving Repr

/-- Reads a line that opens a table, after its first bracket. -/
def header? (d : Draft) (cs : List Char) : Option (Draft × List Char) := do
  match cs with
  | '[' :: cs =>
    let ((path, key), rest) ← key? cs
    let rest ← lineEnd? (← after? ']' (← after? ']' rest))
    return (⟨← d.entries.openItem? path key, path ++ [key]⟩, rest)
  | cs =>
    let ((path, key), rest) ← key? cs
    let rest ← lineEnd? (← after? ']' rest)
    return (⟨← d.entries.openTable? path key, path ++ [key]⟩, rest)

/-- Reads a line that gives a key a value. -/
def assignment? (d : Draft) (cs : List Char) : Option (Draft × List Char) := do
  let ((path, key), rest) ← key? cs
  let rest := skipSpace (← after? '=' rest)
  let (v, rest) ← value? 0 (rest.length + 1) rest
  let rest ← lineEnd? rest
  let entries ← d.entries.atPath? (·.insert? key v path) d.current
  return ({ d with entries }, rest)

/-- Reads line after line. -/
def lines? : (fuel : Nat) → Draft → List Char → Option Draft
  | 0, _, _ => none
  | fuel + 1, d, cs => do
    match skipSpace cs with
    | [] => return d
    | '[' :: rest =>
      let (d, rest) ← header? d rest
      lines? fuel d rest
    | '#' :: rest => lines? fuel d (← lineEnd? ('#' :: rest))
    | cs =>
      match newline? cs with
      | some rest => lines? fuel d rest
      | none =>
        let (d, rest) ← assignment? d cs
        lines? fuel d rest

/-- The entries of a document; a mark of its byte order in front is passed over. -/
def read? (text : String) : Option (List (String × Value)) := do
  let cs := match text.toList with
    | '\uFEFF' :: rest => rest
    | cs => cs
  let d ← lines? (cs.length + 1) {} cs
  return Node.values d.entries

end ShopTraffic.Toml
