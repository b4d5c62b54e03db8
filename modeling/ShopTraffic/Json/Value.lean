import ShopTraffic.Text.Real

/-!
# JSON values and their text

* `Json` — values; whole numbers and doubles stay apart;
* `Fields` — the members of an object by key, in the order of the keys' code points; `Fields.put`
  replaces a value that is there;
* `Json.text` — compact text. Quotes, backslashes and characters below space are escaped, all others
  stand for themselves.
-/

namespace ShopTraffic

/-- A JSON value. -/
inductive Json where
  | null
  | bool (b : Bool)
  | int (n : Int)
  | real (x : Float)
  | str (s : String)
  | arr (items : List Json)
  | obj (members : List (String × Json))
  deriving Repr, Inhabited

/-- Members of an object, in ascending order of their keys. -/
abbrev Fields := List (String × Json)

namespace Fields

/-- Sets the value of a key. -/
def put (key : String) (value : Json) : Fields → Fields
  | [] => [(key, value)]
  | (k, v) :: rest =>
    if key < k then (key, value) :: (k, v) :: rest
    else if key = k then (key, value) :: rest
    else (k, v) :: put key value rest

/-- The value of a key. -/
def get? (key : String) (fields : Fields) : Option Json := List.lookup key fields

/-- Members given in any order; of two values for a key the later one stays. -/
def ofList (pairs : List (String × Json)) : Fields :=
  pairs.foldl (fun fields (k, v) => put k v fields) []

@[simp] theorem get?_put_self (key : String) (value : Json) (fields : Fields) :
    get? key (put key value fields) = some value := by
  induction fields with
  | nil => simp [put, get?]
  | cons m rest ih =>
    obtain ⟨k, v⟩ := m
    unfold put
    split
    · simp [get?]
    · split
      · simp [get?]
      · next h => simpa [get?, List.lookup_cons, beq_eq_false_iff_ne.2 h] using ih

theorem get?_put_of_ne {key other : String} (value : Json) (fields : Fields) (h : other ≠ key) :
    get? other (put key value fields) = get? other fields := by
  have hb : (other == key) = false := beq_eq_false_iff_ne.2 h
  induction fields with
  | nil => simp [put, get?, List.lookup_cons, hb]
  | cons m rest ih =>
    obtain ⟨k, v⟩ := m
    unfold put
    split
    · simp [get?, List.lookup_cons, hb]
    · split
      · next e => subst e; simp [get?, List.lookup_cons, hb]
      · simp only [get?, List.lookup_cons] at ih ⊢; rw [ih]

end Fields

namespace Json

/-- A character inside a quoted string. -/
def escaped (c : Char) : List Char :=
  match c with
  | '"' => ['\\', '"']
  | '\\' => ['\\', '\\']
  | '\x08' => ['\\', 'b']
  | '\t' => ['\\', 't']
  | '\n' => ['\\', 'n']
  | '\x0c' => ['\\', 'f']
  | '\r' => ['\\', 'r']
  | c => if c.toNat < 0x20 then ['\\', 'u'] ++ Text.fixedDigits 16 4 c.toNat else [c]

/-- A string between quotes. -/
def quoted (s : String) : String :=
  "\"" ++ String.ofList (s.toList.flatMap escaped) ++ "\""

mutual

/-- Compact text of a value. -/
def text : Json → String
  | .null => "null"
  | .bool b => if b then "true" else "false"
  | .int n => toString n
  | .real x => Text.shortestText x
  | .str s => quoted s
  | .arr items => "[" ++ ",".intercalate (itemTexts items) ++ "]"
  | .obj members => "\x7b" ++ ",".intercalate (memberTexts members) ++ "\x7d"

/-- Texts of the items of an array. -/
def itemTexts : List Json → List String
  | [] => []
  | v :: rest => v.text :: itemTexts rest

/-- Texts of the members of an object. -/
def memberTexts : List (String × Json) → List String
  | [] => []
  | (k, v) :: rest => (quoted k ++ ":" ++ v.text) :: memberTexts rest

end

/-- A whole number that is not negative. -/
def nat (n : Nat) : Json := .int n

end Json

end ShopTraffic
