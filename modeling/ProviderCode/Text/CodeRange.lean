/-!
# Code ranges

A property of characters is kept as the list of the code point ranges that have it, lowest first.
-/

namespace ProviderCode.Text

/-- First and last code point of an unbroken run. -/
abbrev CodeRange := Nat × Nat

/-- Whether one of the ranges holds the character. -/
def CodeRange.cover (ranges : List CodeRange) (c : Char) : Bool :=
  ranges.any fun range => range.1 ≤ c.toNat && c.toNat ≤ range.2

end ProviderCode.Text
