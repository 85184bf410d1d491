import ProviderCode.Error
import ProviderCode.Json.Value
import ProviderCode.Text.Shown

/-!
# Templates

A template is text with places for the values of a context: a value itself, the number of its items,
a part repeated for each item, or one of two parts. What is put in place is never looked at again,
so a value can hold any text.

A name that the context does not have stands for nothing. Most places can do without a value, but
nothing and values without items cannot be counted, and a number or truth value cannot be gone
through.
-/

namespace ProviderCode

open Json (Value)

/-- A value of the context: a variable, and the members to follow from it. -/
structure Path where
  var : String
  members : List String := []
deriving DecidableEq, Repr

inductive Piece
  | text (text : String)
  | value (path : Path)
  | count (path : Path)
  /-- The body for each item, which the variable stands for. -/
  | each (var : String) (path : Path) (body : List Piece)
  | choose (condition : Path) (yes no : List Piece)

/-- A template and the name of the file that it is known by. -/
structure Template where
  file : String
  pieces : List Piece

/-! ### Values in templates -/

namespace Template

/-- A number that stands by itself is always positional. -/
def numberLayout : Decimal.Layout where
  positionalFrom := -400
  positionalBelow := 400
  plusSign := false
  tie := .up

/-- A number inside another value is positional from `0.0001` up to below `1e16`. -/
def innerNumberLayout : Decimal.Layout where
  positionalFrom := -4
  positionalBelow := 16
  plusSign := false
  tie := .up

mutual

/-- The text of a value inside another one; an object has its members in the order of keys. -/
def inner : Value → String
  | .null => "None"
  | .bool b => if b then "True" else "False"
  | .integer i => Int.repr i
  | .float x => innerNumberLayout.write x
  | .string s => Text.shown s
  | .array items => "[" ++ String.intercalate ", " (innerItems items) ++ "]"
  | .object members =>
    let sorted := (innerMembers members).mergeSort fun a b => a.1 ≤ b.1
    "\x7b" ++ String.intercalate ", " (sorted.map fun m => Text.shown m.1 ++ ": " ++ m.2) ++ "\x7d"
termination_by structural value => value

def innerItems : List Value → List String
  | [] => []
  | item :: items => inner item :: innerItems items
termination_by structural items => items

/-- The keys with the texts of their values. -/
def innerMembers : List (String × Value) → List (String × String)
  | [] => []
  | (key, value) :: members => (key, inner value) :: innerMembers members
termination_by structural members => members

end

/-- The text of a value, or of nothing. -/
def display : Option Value → String
  | none => ""
  | some (.string s) => s
  | some (.float x) => numberLayout.write x
  | some value => inner value

/-- Whether a condition holds. -/
def holds : Option Value → Bool
  | none | some .null => false
  | some (.bool b) => b
  | some (.integer i) => i != 0
  | some (.float x) => x != 0
  | some (.string s) => !s.isEmpty
  | some (.array items) => !items.isEmpty
  | some (.object members) => !members.isEmpty

/-- The items to go through: those of an array, the keys of an object in order, the characters of a
string. -/
def items? : Option Value → Option (List Value)
  | none | some .null => some []
  | some (.array items) => some items
  | some (.object members) =>
    some (((members.map (·.1)).mergeSort fun a b => a ≤ b).map .string)
  | some (.string s) => some (s.toList.map fun c => .string (String.singleton c))
  | some (.bool _) | some (.integer _) | some (.float _) => none

/-- The number of items. -/
def count? : Option Value → Option Nat
  | some (.array items) => some items.length
  | some (.object members) => some members.length
  | some (.string s) => some s.length
  | none | some .null | some (.bool _) | some (.integer _) | some (.float _) => none

/-! ### Rendering -/

/-- The values that variables stand for, inner ones first, and the context around them. -/
structure Scope where
  bound : List (String × Value) := []
  context : Value

namespace Scope

def bind (scope : Scope) (var : String) (value : Value) : Scope :=
  { scope with bound := (var, value) :: scope.bound }

def lookup? (scope : Scope) (var : String) : Option Value :=
  (scope.bound.lookup var).or (scope.context.get? var)

/-- Follows members; nothing has no members at all. -/
def follow? : Option Value → List String → Option (Option Value)
  | value, [] => some value
  | none, _ :: _ => none
  | some value, key :: keys => follow? (value.get? key) keys

/-- What a path leads to, if it leads anywhere. -/
def resolve? (scope : Scope) (path : Path) : Option (Option Value) :=
  follow? (scope.lookup? path.var) path.members

end Scope

mutual

/-- The texts of a piece, unless a value does not fit. -/
def renderPiece? : Scope → Piece → Option (List String)
  | _, .text text => some [text]
  | scope, .value path => do
    let value ← scope.resolve? path
    return [display value]
  | scope, .count path => do
    let value ← scope.resolve? path
    let n ← count? value
    return [Nat.repr n]
  | scope, .each var path body => do
    let value ← scope.resolve? path
    let items ← items? value
    let texts ← items.mapM fun item => renderPieces? (scope.bind var item) body
    return texts.flatten
  | scope, .choose condition yes no => do
    let value ← scope.resolve? condition
    if holds value then renderPieces? scope yes else renderPieces? scope no
termination_by structural _ piece => piece

def renderPieces? : Scope → List Piece → Option (List String)
  | _, [] => some []
  | scope, piece :: pieces => do
    let texts ← renderPiece? scope piece
    let rest ← renderPieces? scope pieces
    return texts ++ rest
termination_by structural _ pieces => pieces

end

/-- Renders a template for what is called `name`. -/
def render (template : Template) (name : String) (context : Value) : Generated String :=
  match renderPieces? { context } template.pieces with
  | some texts => .ok (String.join texts)
  | none => .error (.template template.file name)

end Template

end ProviderCode
