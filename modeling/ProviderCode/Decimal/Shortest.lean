/-!
# Shortest decimals

A finite binary64 number is `significand * 2 ^ exponent`. The reals that round to it form an
interval, and `Binary64.shortest` gives the fewest decimal digits of which some number lies in that
interval: of two neighbours on the first grid with a hit, the nearer one.

Everything is exact: both the number and the ends of its interval are whole multiples of one power
of ten.
-/

namespace ProviderCode.Decimal

/-- A finite binary64 number without its sign. -/
structure Binary64 where
  significand : Nat
  exponent : Int

/-- Which of two decimals at the same distance is written. -/
inductive Tie
  | even
  | up

/-- The number `digits * 10 ^ exponent`. -/
structure Digits where
  digits : Nat
  exponent : Int

namespace Binary64

/-- The sign bit and the magnitude; nothing for an infinity and for what is not a number. -/
def ofFloat? (x : Float) : Option (Bool × Binary64) :=
  let bits : Nat := x.toBits.toNat
  let negative := bits / Nat.pow 2 63 == 1
  let biased : Nat := bits / Nat.pow 2 52 % Nat.pow 2 11
  let fraction : Nat := bits % Nat.pow 2 52
  if biased == 2047 then none
  else if biased == 0 then some (negative, ⟨fraction, -1074⟩)
  else some (negative, ⟨Nat.pow 2 52 + fraction, (biased : Int) - 1075⟩)

/-- The exponent of the power of ten of which the number, four times finer, is a whole multiple. -/
def unit (x : Binary64) : Int := min (x.exponent - 2) 0

/-- `n` quarters of the last binary place, in the power of ten that `unit` names. -/
def scale (x : Binary64) (n : Nat) : Nat :=
  if 0 ≤ x.exponent - 2 then n * Nat.pow 2 (x.exponent - 2).toNat
  else n * Nat.pow 5 (2 - x.exponent).toNat

/-- The number itself. -/
def value (x : Binary64) : Nat := x.scale (4 * x.significand)

/-- The lower end of the interval; below a power of two the neighbour is half as far. -/
def low (x : Binary64) : Nat :=
  if x.significand == Nat.pow 2 52 && -1074 < x.exponent then x.scale (4 * x.significand - 1)
  else x.scale (4 * x.significand - 2)

/-- The upper end of the interval. -/
def high (x : Binary64) : Nat := x.scale (4 * x.significand + 2)

/-- Whether a point rounds to the number: the ends do just when the significand is even. -/
def holds (x : Binary64) (point : Nat) : Bool :=
  if x.significand % 2 == 0 then x.low ≤ point && point ≤ x.high
  else x.low < point && point < x.high

/-- The neighbour on the grid of step `step` that rounds to the number, the nearer one of two. -/
def neighbour? (tie : Tie) (x : Binary64) (step : Nat) : Option Nat :=
  let below := x.value / step
  let fromBelow := x.value - below * step
  let toNext := step - fromBelow
  match x.holds (below * step), x.holds ((below + 1) * step) with
  | false, false => none
  | true, false => some below
  | false, true => some (below + 1)
  | true, true =>
    if fromBelow < toNext then some below
    else if toNext < fromBelow then some (below + 1)
    else
      match tie with
      | .up => some (below + 1)
      | .even => some (if below % 2 == 0 then below else below + 1)

/-- Drops the zeros at the end, which only `9…9` rounded up can have. -/
def trim : Nat → Digits → Digits
  | 0, d => d
  | fuel + 1, d =>
    if d.digits % 10 == 0 && d.digits != 0 then trim fuel ⟨d.digits / 10, d.exponent + 1⟩ else d

/-- The fewest digits that read back as the number. -/
def shortest (tie : Tie) (x : Binary64) : Digits :=
  let places := (Nat.toDigits 10 x.value).length
  let found := (List.range 17).findSome? fun n =>
    let step := Nat.pow 10 (places - (n + 1))
    (x.neighbour? tie step).map fun d => Digits.mk d (x.unit + (places - (n + 1) : Nat))
  trim 17 (found.getD ⟨x.value, x.unit⟩)

end Binary64

end ProviderCode.Decimal
