/-!
# String literals

A string as a literal of the generated code: on one line, between double quotes.
-/

namespace ProviderCode.Literal

/-- The characters of the general category of control characters. -/
def isControl (c : Char) : Bool := c.toNat < 32 || (127 ≤ c.toNat && c.toNat < 160)

/-- Four small hexadecimal digits. -/
def hexQuad (n : Nat) : List Char :=
  [n / 4096 % 16, n / 256 % 16, n / 16 % 16, n % 16].map Nat.digitChar

/-- One character inside a literal. -/
def escape (c : Char) : List Char :=
  match c with
  | '"' => ['\\', '"']
  | '\\' => ['\\', '\\']
  | '\n' => ['\\', 'n']
  | '\r' => ['\\', 'r']
  | '\t' => ['\\', 't']
  | c => if isControl c then '\\' :: 'u' :: hexQuad c.toNat else [c]

/-- The literal of a string. -/
def encode (s : String) : String := "\"" ++ String.ofList (s.toList.flatMap escape) ++ "\""

end ProviderCode.Literal
