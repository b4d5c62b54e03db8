import ShopTraffic.Text.Digits

/-!
# Percent encoding

Bytes outside a class are written as a percent sign and two hexadecimal digits of upper case.

* `percentDecoded` — the bytes that a text with such escapes stands for;
* `encodeBytes` — the encoding for a class of characters that stand for themselves;
* `formEncoded` — the class of forms, where a space becomes a plus sign;
* `pathEncoded`, `queryEncoded` — the classes of the path and the query of an address.
-/

namespace ShopTraffic.Text

/-- One byte behind a percent sign. -/
def percentByte (b : UInt8) : List Char :=
  '%' :: (fixedDigits 16 2 b.toNat).map Char.toUpper

/-- Bytes with their escapes undone; a percent sign without two hexadecimal digits stays. -/
def percentDecoded : List UInt8 → List UInt8
  | 0x25 :: high :: low :: rest =>
    match digitsValue? 16 [Char.ofNat high.toNat, Char.ofNat low.toNat] with
    | some n => n.toUInt8 :: percentDecoded rest
    | none => 0x25 :: percentDecoded (high :: low :: rest)
  | b :: rest => b :: percentDecoded rest
  | [] => []

/-- Writes bytes with `plain` for the ASCII characters that stand for themselves. -/
def encodeBytes (plain : Char → Bool) (bytes : List UInt8) : String :=
  String.ofList <| bytes.flatMap fun b =>
    let c := Char.ofNat b.toNat
    if b < 0x80 && plain c then [c] else percentByte b

/-- A value of a form. -/
def formEncoded (s : String) : String :=
  String.ofList <| s.toUTF8.toList.flatMap fun b =>
    let c := Char.ofNat b.toNat
    if c = ' ' then ['+']
    else if b < 0x80 && (c.isAlphanum || c == '*' || c == '-' || c == '.' || c == '_') then [c]
    else percentByte b

/-- Control characters, spaces and the delimiters of texts about addresses. -/
def isUnsafe (c : Char) : Bool :=
  c.toNat ≤ 0x20 || c.toNat = 0x7f || c == '"' || c == '<' || c == '>'

/-- A segment of a path; what is encoded already stays. -/
def pathEncoded (s : String) : String :=
  encodeBytes (fun c => !(isUnsafe c || c.toNat = 0x60 || c == '#' || c == '?' || c == '\x7b' ||
    c == '\x7d')) s.toUTF8.toList

/-- A query; what is encoded already stays. -/
def queryEncoded (s : String) : String :=
  encodeBytes (fun c => !(isUnsafe c || c == '#' || c.toNat = 0x27)) s.toUTF8.toList

end ShopTraffic.Text
