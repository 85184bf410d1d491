import ProviderCode.Text.Printable

/-!
# Texts in messages

A message shows a text in quotes, with an escape for every character that does not show by itself.
-/

namespace ProviderCode.Text

/-- One character of a shown text. -/
def showChar (c : Char) : List Char :=
  match c with
  | '"' => ['\\', '"']
  | '\\' => ['\\', '\\']
  | '\n' => ['\\', 'n']
  | '\r' => ['\\', 'r']
  | '\t' => ['\\', 't']
  | c =>
    if c.toNat = 0 then ['\\', '0']
    else if isPrintable c && !isExtending c then [c]
    else ['\\', 'u', '\x7b'] ++ Nat.toDigits 16 c.toNat ++ ['\x7d']

/-- A text in quotes, readable on one line. -/
def shown (s : String) : String := "\"" ++ String.ofList (s.toList.flatMap showChar) ++ "\""

end ProviderCode.Text
