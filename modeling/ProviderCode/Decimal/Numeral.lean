/-!
# Numerals

A numeral is a number as it is written: a sign, digits before and after the point, an exponent.
`Numeral.amount?` says which number it stands for. Without a point and an exponent, a numeral that
fits 64 bits is that integer. Every other numeral is a floating point number, found by reading as
many digits as fit an unsigned 64-bit significand and scaling that by a power of ten; the scaling
rounds, so the result can differ from the nearest number in the last place.
-/

namespace ProviderCode.Decimal

/-- A written number. Without a point `fraction` is empty; after a point it never is. -/
structure Numeral where
  negative : Bool := false
  whole : List Nat
  fraction : List Nat := []
  /-- Whether the exponent is negative, and its digits. -/
  exponent : Option (Bool × List Nat) := none
deriving BEq, DecidableEq, Repr

/-- What a numeral stands for. -/
inductive Amount
  | natural (n : Nat)
  /-- An integer below zero. -/
  | negative (i : Int)
  | float (x : Float)

namespace Numeral

/-- The largest unsigned 64-bit number. -/
def maxSignificand : Nat := Nat.pow 2 64 - 1

/-- Reads digits while the significand fits, and returns the digits that are left. -/
def accumulate (significand : Nat) : List Nat → Nat × List Nat
  | [] => (significand, [])
  | d :: rest =>
    if significand * 10 + d ≤ maxSignificand then accumulate (significand * 10 + d) rest
    else (significand, d :: rest)

/-- The largest exponent that is read as a number. -/
def maxExponent : Nat := Nat.pow 2 31 - 1

/-- The largest power of ten in range. -/
def largestPower : Nat := 308

/-- Scales by a power of ten; nothing if the result is infinite. -/
def scaleInRange? (x : Float) (exponent : Int) : Option Float :=
  let power := Float.ofScientific 1 false exponent.natAbs
  if 0 ≤ exponent then
    let y := x * power
    if y.isInf then none else some y
  else some (x / power)

/-- Divides by the largest power of ten until the exponent is in range or nothing is left. -/
def scaleDown? : Nat → Float → Int → Option Float
  | 0, x, _ => some x
  | steps + 1, x, exponent =>
    if exponent.natAbs ≤ largestPower then scaleInRange? x exponent
    else if x == 0 then some x
    else if 0 ≤ exponent then none
    else scaleDown? steps (x / Float.ofScientific 1 false largestPower) (exponent + largestPower)

/-- Scales a significand by a power of ten; nothing if the result is out of range. -/
def scale? (significand : Nat) (exponent : Int) : Option Float :=
  scaleDown? (exponent.natAbs / largestPower + 2) (Float.ofNat significand) exponent

/-- The exponent as written; nothing for its size if that is out of range. -/
def writtenExponent (digits : List Nat) : Option Nat :=
  let n := digits.foldl (fun acc d => min (acc * 10 + d) (maxExponent + 1)) 0
  if n ≤ maxExponent then some n else none

/-- The magnitude of a numeral with a point, an exponent or more digits than fit. -/
def float? (n : Numeral) : Option Float :=
  let (head, extra) := accumulate 0 n.whole
  let (significand, dropped) := accumulate head n.fraction
  let shift : Int := extra.length - (n.fraction.length - dropped.length : Nat)
  match n.exponent with
  | none => scale? significand shift
  | some (down, digits) =>
    match writtenExponent digits with
    | some e => scale? significand (if down then shift - e else shift + e)
    | none => if significand != 0 && !down then none else some 0.0

/-- Whether the numeral has neither point nor exponent. -/
def isInteger (n : Numeral) : Bool := n.fraction.isEmpty && n.exponent.isNone

/-- The number the numeral stands for; nothing if it is out of range. -/
def amount? (n : Numeral) : Option Amount :=
  let signed (x : Float) : Float := if n.negative then -x else x
  match n.isInteger, accumulate 0 n.whole with
  | true, (significand, []) =>
    if !n.negative then some (.natural significand)
    else if significand != 0 && significand ≤ Nat.pow 2 63 then some (.negative (-significand))
    else some (.float (-Float.ofNat significand))
  | _, _ => n.float?.map fun x => .float (signed x)

end Numeral

end ProviderCode.Decimal
