import ProviderCode.Decimal.Layout
import ProviderCode.Json.Tree

/-!
# JSON values

Values as a program holds them, and their compact text. Integers and floating point numbers are
different numbers here, since only the latter are written with a point or an exponent.
-/

namespace ProviderCode.Json

inductive Value
  | null
  | bool (b : Bool)
  | integer (i : Int)
  | float (x : Float)
  | string (s : String)
  | array (items : List Value)
  /-- The members in the order in which they are written. -/
  | object (members : List (String × Value))

/-! ### Text -/

/-- Numbers are positional from `1e-5` up to below `1e+16`; other exponents always have a sign. -/
def numberLayout : Decimal.Layout where
  positionalFrom := -5
  positionalBelow := 16
  plusSign := true
  tie := .even

/-- Two small hexadecimal digits. -/
def hexPair (n : Nat) : List Char := [Nat.digitChar (n / 16), Nat.digitChar (n % 16)]

/-- One character inside a string. -/
def escape (c : Char) : List Char :=
  match c with
  | '"' => ['\\', '"']
  | '\\' => ['\\', '\\']
  | '\x08' => ['\\', 'b']
  | '\x0c' => ['\\', 'f']
  | '\n' => ['\\', 'n']
  | '\r' => ['\\', 'r']
  | '\t' => ['\\', 't']
  | c => if c < ' ' then '\\' :: 'u' :: '0' :: '0' :: hexPair c.toNat else [c]

/-- A string in quotes. -/
def quote (s : String) : String := "\"" ++ String.ofList (s.toList.flatMap escape) ++ "\""

namespace Value

/-- The text of a floating point number; what is not finite has none and is written as null. -/
def floatText (x : Float) : String := if x.isFinite then numberLayout.write x else "null"

mutual

/-- The text without any blanks. -/
def compact : Value → String
  | .null => "null"
  | .bool b => if b then "true" else "false"
  | .integer i => Int.repr i
  | .float x => floatText x
  | .string s => quote s
  | .array [] => "[]"
  | .array (item :: items) => "[" ++ item.compact ++ compactItems items ++ "]"
  | .object [] => "\x7b\x7d"
  | .object ((key, value) :: members) =>
    "\x7b" ++ quote key ++ ":" ++ value.compact ++ compactMembers members ++ "\x7d"
termination_by structural value => value

/-- The items after the first. -/
def compactItems : List Value → String
  | [] => ""
  | item :: items => "," ++ item.compact ++ compactItems items
termination_by structural items => items

/-- The members after the first. -/
def compactMembers : List (String × Value) → String
  | [] => ""
  | (key, value) :: members =>
    "," ++ quote key ++ ":" ++ value.compact ++ compactMembers members
termination_by structural members => members

end

/-- The number a numeral stands for. -/
def ofAmount : Decimal.Amount → Value
  | .natural n => .integer n
  | .negative i => .integer i
  | .float x => .float x

/-- The value of a member; of several with one key the last one counts. -/
def get? (key : String) : Value → Option Value
  | .object members => members.reverse.lookup key
  | _ => none

end Value

/-! ### Reading without a form -/

mutual

/-- The value a tree stands for, if it has no fault. -/
def Tree.value? : Tree → Option Value
  | .null => some .null
  | .bool b => some (.bool b)
  | .number n => n.amount?.map .ofAmount
  | .string text => text.map .string
  | .array items .closed => (itemValues? items).map .array
  | .object members .closed => (memberValues? members).map .object
  | .array _ _ | .object _ _ | .broken _ _ _ => none
termination_by structural tree => tree

def itemValues? : List Tree → Option (List Value)
  | [] => some []
  | item :: items =>
    match item.value?, itemValues? items with
    | some value, some values => some (value :: values)
    | _, _ => none
termination_by structural items => items

def memberValues? : List (Option String × Tree) → Option (List (String × Value))
  | [] => some []
  | (some key, tree) :: members =>
    match tree.value?, memberValues? members with
    | some value, some values => some ((key, value) :: values)
    | _, _ => none
  | (none, _) :: _ => none
termination_by structural members => members

end

/-- The value of a text that is one JSON value and nothing else. -/
def Value.ofText? (text : String) : Option Value :=
  let document := Document.ofText text
  if document.trailing then none else document.root.value?

end ProviderCode.Json
