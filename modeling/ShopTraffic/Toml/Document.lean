/-!
# TOML documents

A document is a tree that its lines build up. A table may be opened by a header, implied by a longer
header, or made by a key with dots; these ways do not mix, and no key is given twice.

* `Value` — what a key can stand for;
* `Node` — a value or a table while a document is built;
* `Entries.insert?` — adds a value under a key with dots;
* `Entries.openTable?`, `Entries.openItem?` — what the two kinds of headers do;
* `Node.value` — the finished value of a node.
-/

namespace ShopTraffic.Toml

/-- A TOML value. Numbers with a fraction and dates are kept as they are written. -/
inductive Value where
  | string (s : String)
  | integer (n : Int)
  | float (text : String)
  | boolean (b : Bool)
  | datetime (text : String)
  | array (items : List Value)
  | table (entries : List (String × Value))
  deriving Repr, Inhabited

/-- How a table came to be. -/
inductive Origin where
  /-- The document itself, or a header of its own. -/
  | header
  /-- A longer header. -/
  | implied
  /-- A key with dots. -/
  | dotted
  deriving DecidableEq, Repr

/-- A place in a document. -/
inductive Node where
  | leaf (value : Value)
  | table (origin : Origin) (entries : List (String × Node))
  /-- Tables of one array, the last one first. -/
  | tables (items : List (List (String × Node)))
  deriving Repr, Inhabited

mutual

/-- The finished value of a node. -/
def Node.value : Node → Value
  | .leaf v => v
  | .table _ entries => .table (Node.values entries)
  | .tables items => .array (Node.itemValues items [])

/-- The finished values of the entries of a table. -/
def Node.values : List (String × Node) → List (String × Value)
  | [] => []
  | (k, n) :: rest => (k, n.value) :: Node.values rest

/-- The finished tables of an array, in the order they were opened. -/
def Node.itemValues : List (List (String × Node)) → List Value → List Value
  | [], done => done
  | entries :: rest, done => Node.itemValues rest (.table (Node.values entries) :: done)

end

/-- The entries of a table, in the order they were made. -/
abbrev Entries := List (String × Node)

namespace Entries

/-- Replaces the node of a key, or adds one. -/
def set (key : String) (node : Node) : Entries → Entries
  | [] => [(key, node)]
  | (k, n) :: rest => if k = key then (k, node) :: rest else (k, n) :: set key node rest

/-- Adds a value under a key that is new. -/
def insertNew? (key : String) (value : Value) (entries : Entries) : Option Entries :=
  match entries.lookup key with
  | some _ => none
  | none => some (set key (.leaf value) entries)

/-- Adds a value under a key with dots. The tables on the way are made by such keys, too; the last
of them must be. -/
def insert? (key : String) (value : Value) : (path : List String) → Entries → Option Entries
  | [], entries => insertNew? key value entries
  | p :: path, entries => do
    let last := path.isEmpty
    match entries.lookup p with
    | none => return set p (.table .dotted (← insert? key value path [])) entries
    | some (.leaf _) => none
    | some (.table .header _) => none
    | some (.table origin inner) =>
      if last ∧ origin ≠ .dotted then none
      else return set p (.table origin (← insert? key value path inner)) entries
    | some (.tables []) => none
    | some (.tables (inner :: others)) =>
      if last then none
      else return set p (.tables ((← insert? key value path inner) :: others)) entries

/-- Follows a path of tables, implying those that are missing, and changes the entries at its
end. Of an array the last table is meant. -/
def atPath? (f : Entries → Option Entries) : (path : List String) → Entries → Option Entries
  | [], entries => f entries
  | p :: path, entries => do
    match entries.lookup p with
    | none => return set p (.table .implied (← atPath? f path [])) entries
    | some (.leaf _) => none
    | some (.table origin inner) => return set p (.table origin (← atPath? f path inner)) entries
    | some (.tables []) => none
    | some (.tables (inner :: others)) =>
      return set p (.tables ((← atPath? f path inner) :: others)) entries

/-- Opens a table by a header. Only a table that was implied may be there. -/
def openTable? (path : List String) (key : String) : Entries → Option Entries :=
  atPath? (fun entries =>
    match entries.lookup key with
    | none => some (set key (.table .header []) entries)
    | some (.table .implied inner) => some (set key (.table .header inner) entries)
    | some _ => none) path

/-- Opens the next table of an array by a header. -/
def openItem? (path : List String) (key : String) : Entries → Option Entries :=
  atPath? (fun entries =>
    match entries.lookup key with
    | none => some (set key (.tables [[]]) entries)
    | some (.tables items) => some (set key (.tables ([] :: items)) entries)
    | some _ => none) path

end Entries

end ShopTraffic.Toml
