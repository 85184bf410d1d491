import ProviderCode.Format.Error

/-!
# Formats

A format writes a value as JSON and reads it from the tree of a document. Documents are read in one
pass, so of several errors the first one in the text is reported.

A value inside a record whose alternative is one of its keys cannot be read in one pass: its key is
not known before the record is read to its end. Such values are kept whole at first
(`Setting.kept`), and then some of them are described in other words.
-/

namespace ProviderCode

open Json (Fault Tree Ending Value)

/-- How a tree is being read. -/
structure Setting where
  /-- The value has been kept whole, so the text of it has no fault. -/
  kept : Bool
  /-- How many containers may still be opened inside each other. -/
  room : Nat

/-- The result of reading. -/
abbrev Read := Except ReadError

/-- Reads a value of a type from a tree. -/
abbrev Reader (α : Type) := Setting → Tree → Read α

/-- A way of writing the values of a type, and of reading them. -/
structure Format (α : Type) where
  read : Reader α
  write : α → Value

namespace Setting

/-- The deepest nesting of containers that is read. -/
def deepest : Nat := 127

/-- The setting for the root of a document. -/
def root : Setting := ⟨false, deepest⟩

/-- The setting inside a container. -/
def enter (s : Setting) : Read Setting :=
  match s.room with
  | 0 => .error (.fault .malformed)
  | room + 1 => .ok { s with room }

end Setting

/-- Goes on unless there is a fault. -/
def unlessFault : Option Fault → Read Unit
  | none => .ok ()
  | some fault => .error (.fault fault)

/-- The error of a tree that is not of the wanted type; of a container only its start counts. -/
def mismatch (wanted : Wanted) : Tree → ReadError
  | .null => .wrongType .null wanted
  | .bool b => .wrongType (.bool b) wanted
  | .number n =>
    match n.amount? with
    | some amount => .wrongType (.ofAmount amount) wanted
    | none => .fault .malformed
  | .string (some s) => .wrongType (.text s) wanted
  | .string none => .fault .malformed
  | .array _ _ => .wrongType .sequence wanted
  | .object _ _ => .wrongType .map wanted
  | .broken _ read _ => .fault read

namespace Format

/-! ### Single values -/

def string : Format String where
  read
    | _, .string (some s) => .ok s
    | _, tree => .error (mismatch .text tree)
  write := .string

def bool : Format Bool where
  read
    | _, .bool b => .ok b
    | _, tree => .error (mismatch .boolean tree)
  write := .bool

/-- Signed 64-bit integers; no number with a point or an exponent is one. -/
def int64 : Format Int64 where
  read
    | _, .number n =>
      match n.amount? with
      | some (.natural m) => if m < Nat.pow 2 63 then .ok (.ofNat m) else .error (.tooLarge m)
      | some (.negative i) => .ok (.ofInt i)
      | _ => .error (mismatch .integer (.number n))
    | _, tree => .error (mismatch .integer tree)
  write i := .integer i.toInt

def float : Format Float where
  read
    | _, .number n =>
      match n.amount? with
      | some (.natural m) => .ok (Float.ofNat m)
      | some (.negative i) => .ok (-Float.ofNat i.natAbs)
      | some (.float x) => .ok x
      | none => .error (.fault .malformed)
    | _, tree => .error (mismatch .float tree)
  write := .float

/-- Any value at all. -/
def value : Format Value where
  read s tree := do
    unlessFault (tree.readFault? s.room)
    match tree.value? with
    | some value => .ok value
    | none => .error (.fault .malformed)
  write := id

/-! ### Values of values -/

/-- A value or null. A word that starts like null is read as null. -/
def option {α : Type} (format : Format α) : Format (Option α) where
  read s
    | .null => .ok none
    | .broken (some 'n') read _ => .error (.fault read)
    | tree => some <$> format.read s tree
  write
    | none => .null
    | some a => format.write a

/-- The items of an array in order. -/
def list {α : Type} (format : Format α) : Format (List α) where
  read s
    | .array items ending => do
      let inner ← s.enter
      let values ← items.mapM (format.read inner)
      unlessFault ending.readFault?
      return values
    | tree => .error (mismatch .sequence tree)
  write values := .array (values.map format.write)

/-- Reads a text that holds one value and nothing else. -/
def readText {α : Type} (format : Format α) (text : String) : Read α := do
  let document := Json.Document.ofText text
  let value ← format.read .root document.root
  if document.trailing then throw (.fault .malformed)
  return value

/-- The compact text of a value. -/
def writeText {α : Type} (format : Format α) (a : α) : String := (format.write a).compact

end Format

end ProviderCode
