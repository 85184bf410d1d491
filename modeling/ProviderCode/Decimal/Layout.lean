import ProviderCode.Decimal.Shortest

/-!
# Decimal layout

How the digits of a number are set out: which exponents are written in positional form, and how the
exponent of the others looks. A number in positional form always has a decimal place.
-/

namespace ProviderCode.Decimal

/-- The choices of one way of writing numbers. -/
structure Layout where
  /-- The least decimal exponent that is written in positional form. -/
  positionalFrom : Int
  /-- The least larger exponent that is not. -/
  positionalBelow : Int
  /-- Whether a positive exponent has a sign. -/
  plusSign : Bool
  /-- The choice between two equally close decimals of the fewest digits. -/
  tie : Tie

namespace Layout

/-- Digits with the point after the one of weight `10 ^ exponent`, counted from the first digit. -/
def positional (digits : String) (exponent : Int) : String :=
  let count := digits.length
  if exponent < 0 then "0." ++ String.ofList (List.replicate (-exponent - 1).toNat '0') ++ digits
  else
    let whole := exponent.toNat + 1
    if count ≤ whole then digits ++ String.ofList (List.replicate (whole - count) '0') ++ ".0"
    else String.ofList (digits.toList.take whole) ++ "." ++ String.ofList (digits.toList.drop whole)

/-- One digit before the point, the others after it, and the exponent. -/
def scientific (layout : Layout) (digits : String) (exponent : Int) : String :=
  let mantissa :=
    match digits.toList with
    | [] => ""
    | [d] => String.singleton d
    | d :: rest => String.singleton d ++ "." ++ String.ofList rest
  let sign := if exponent < 0 then "-" else if layout.plusSign then "+" else ""
  mantissa ++ "e" ++ sign ++ Nat.repr exponent.natAbs

/-- The text of a finite magnitude. -/
def magnitude (layout : Layout) (x : Binary64) : String :=
  if x.significand == 0 then "0.0"
  else
    let shortest := x.shortest layout.tie
    let digits := Nat.repr shortest.digits
    let exponent := shortest.exponent + digits.length - 1
    if layout.positionalFrom ≤ exponent && exponent < layout.positionalBelow then
      positional digits exponent
    else layout.scientific digits exponent

/-- The text of a number; `0.0` keeps its sign. -/
def write (layout : Layout) (x : Float) : String :=
  match Binary64.ofFloat? x with
  | some (negative, magnitude) => (if negative then "-" else "") ++ layout.magnitude magnitude
  | none => if x.isNaN then "NaN" else if x < 0 then "-inf" else "inf"

end Layout

end ProviderCode.Decimal
