import ShopTraffic.Ingest.Host

/-!
# Addresses of requests

An address is read as browsers read one: blanks around it and line breaks inside are dropped, a
backslash separates like a slash, and segments of dots are resolved.

* `Target` — the part of an address that is sent to the server: path segments and query;
* `Address`, `Address.read?` — an address of a known scheme, with its authority and target.
-/

namespace ShopTraffic.Ingest

/-- The path and the query of an address, encoded. -/
structure Target where
  segments : List String
  query : String
  deriving DecidableEq, Repr

/-- Drops control characters and spaces around an address, and tabs and line breaks inside. -/
def cleaned (s : String) : List Char :=
  let outer (c : Char) : Bool := c.toNat ≤ 0x20
  let trimmed := ((s.toList.dropWhile outer).reverse.dropWhile outer).reverse
  trimmed.filter fun c => c ≠ '\t' ∧ c ≠ '\n' ∧ c ≠ '\r'

/-- Whether a segment is one dot, also where it is encoded. -/
def isDot (segment : String) : Bool := segment.toLower ∈ [".", "%2e"]

/-- Whether a segment is two dots, also where they are encoded. -/
def isDoubleDot (segment : String) : Bool :=
  segment.toLower ∈ ["..", ".%2e", "%2e.", "%2e%2e"]

/-- Whether a segment names a drive: a letter and a colon or a bar. -/
def isDrive (segment : String) : Bool :=
  match segment.toList with
  | [letter, mark] => letter.isAlpha && (mark = ':' || mark = '|')
  | _ => false

/-- The segments above the last one, which comes first. A drive has nothing above it. -/
def parent : List String → List String
  | [] => []
  | s :: above => if isDrive s then s :: above else above

/-- Resolves segments of dots; `done` holds the segments so far, the last one first. A segment of
dots at the end leaves an empty one behind. -/
def resolve : (done : List String) → List String → List String
  | done, [] => done.reverse
  | done, s :: rest =>
    if isDoubleDot s then
      resolve (if rest.isEmpty then "" :: parent done else parent done) rest
    else if isDot s then resolve (if rest.isEmpty then "" :: done else done) rest
    else resolve (s :: done) rest

/-- The target that stands behind an authority. -/
def Target.read (cs : List Char) : Target :=
  let beforeFragment := cs.takeWhile (· ≠ '#')
  let path := beforeFragment.takeWhile (· ≠ '?')
  let query := (beforeFragment.dropWhile (· ≠ '?')).drop 1
  let parts := splitAt (fun c => c = '/' || c = '\\') (path.drop 1)
  { segments := resolve [] (parts.map (Text.pathEncoded ∘ String.ofList))
    query := Text.queryEncoded (String.ofList query) }

/-- The target with more in its query. -/
def Target.withQuery (t : Target) (more : String) : Target :=
  { t with query := if t.query.isEmpty then more else t.query ++ "&" ++ more }

def Target.text (t : Target) : String :=
  "/" ++ "/".intercalate t.segments ++ if t.query.isEmpty then "" else "?" ++ t.query

/-- The known schemes. -/
inductive Scheme where
  | plain
  | secure
  deriving DecidableEq, Repr

namespace Scheme

def text : Scheme → String
  | .plain => "http://"
  | .secure => "https://"

/-- The port of a scheme, which is not written. -/
def port : Scheme → Nat
  | .plain => 80
  | .secure => 443

end Scheme

/-- An address of a known scheme. -/
structure Address where
  scheme : Scheme
  authority : Authority
  target : Target
  deriving DecidableEq, Repr

namespace Address

/-- The address that a text gives. -/
def read? (text : String) : Option Address := do
  let cs := cleaned text
  let scheme ← [Scheme.plain, Scheme.secure].find? (·.text.toList.isPrefixOf cs)
  let rest := (cs.drop scheme.text.length).dropWhile fun c => c = '/' || c = '\\'
  let isInside (c : Char) : Bool := c ∉ ['/', '\\', '?', '#']
  return {
    scheme
    authority := ← Authority.read? (rest.takeWhile isInside)
    target := Target.read (rest.dropWhile isInside) }

/-- The address with more in the query of its target. -/
def withQuery (a : Address) (more : String) : Address :=
  { a with target := a.target.withQuery more }

def text (a : Address) : String :=
  let port := match a.authority.port.filter (· ≠ a.scheme.port) with
    | some port => s!":{port}"
    | none => ""
  a.scheme.text ++ a.authority.host.text ++ port ++ a.target.text

/-- The most bytes that an address may have in a request. -/
def maxLength : Nat := 65534

end Address

end ShopTraffic.Ingest
