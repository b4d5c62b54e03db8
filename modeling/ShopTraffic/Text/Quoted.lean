import ShopTraffic.Text.Unseen

/-!
# Quoted text

The form in which error values show a text: between quotes, with quotes, backslashes and characters
that are not seen by themselves written as escapes.

* `quoted` — a text in this form; `quotedChar` — one character of it.
-/

namespace ShopTraffic.Text

/-- A character between quotes. -/
def quotedChar (c : Char) : List Char :=
  match c with
  | '"' => ['\\', '"']
  | '\\' => ['\\', '\\']
  | '\n' => ['\\', 'n']
  | '\r' => ['\\', 'r']
  | '\t' => ['\\', 't']
  | '\x00' => ['\\', '0']
  | c =>
    if isUnseen c || isMark c then ['\\', 'u', '\x7b'] ++ Nat.toDigits 16 c.toNat ++ ['\x7d']
    else [c]

/-- A text between quotes. -/
def quoted (s : String) : String := "\"" ++ String.ofList (s.toList.flatMap quotedChar) ++ "\""

end ShopTraffic.Text
