import ProviderCode.Format.Basic

/-!
# Records

A record is written as an object whose keys are its fields. It may also be read from an array of its
fields in order, of which those at the end that need not be given can be left out. A key that is not
a field is passed over, a field given twice is an error, and a field that is not given takes the
value it has in the record's blank.
-/

namespace ProviderCode

open Json (Tree Ending Value)

/-- One field of a record. -/
structure Field (σ : Type) where
  key : String
  required : Bool
  /-- Reads a value and says how it changes a record. -/
  fill : Reader (σ → σ)
  /-- The written value, if the field is written at all. -/
  write : σ → Option Value

/-- A record type with its fields in order. -/
structure Record (σ : Type) where
  name : String
  /-- The record of which no field is given yet. -/
  blank : σ
  fields : List (Field σ)

namespace Field

variable {σ τ α : Type}

/-- A field that must be given. -/
def mandatory (key : String) (format : Format α) (get : σ → α) (set : α → σ → σ) : Field σ where
  key
  required := true
  fill s tree := set <$> format.read s tree
  write r := some (format.write (get r))

/-- A field that need not be given, but is always written. -/
def defaulted (key : String) (format : Format α) (get : σ → α) (set : α → σ → σ) : Field σ where
  key
  required := false
  fill s tree := set <$> format.read s tree
  write r := some (format.write (get r))

/-- A field that may be absent or null. -/
def optional (key : String) (format : Format α) (get : σ → Option α) (set : Option α → σ → σ) :
    Field σ where
  key
  required := false
  fill s tree := set <$> format.option.read s tree
  write r := (get r).map format.write

/-- A list that is written only if it has items. -/
def list (key : String) (format : Format α) (get : σ → List α) (set : List α → σ → σ) :
    Field σ where
  key
  required := false
  fill s tree := set <$> format.list.read s tree
  write r := if (get r).isEmpty then none else some (format.list.write (get r))

/-- A field of a part as a field of the whole. -/
def within (field : Field σ) (get : τ → σ) (modify : (σ → σ) → τ → τ) : Field τ where
  key := field.key
  required := field.required
  fill s tree := modify <$> field.fill s tree
  write r := field.write (get r)

end Field

namespace Record

variable {σ : Type}

/-- Reads members in the order of the text; `seen` are the keys of the fields given so far. -/
def readMembers (r : Record σ) (s : Setting) :
    List String → σ → List (Option String × Tree) → Read (List String × σ)
  | seen, a, [] => .ok (seen, a)
  | _, _, (none, _) :: _ => .error (.fault .malformed)
  | seen, a, (some key, tree) :: members =>
    match r.fields.find? (·.key == key) with
    | none => do
      unlessFault tree.skipFault?
      r.readMembers s seen a members
    | some field => do
      if seen.contains key then throw (.repeated key)
      let fill ← field.fill s tree
      r.readMembers s (key :: seen) (fill a) members

/-- Reads items as the fields in order, and returns those that are left on either side. -/
def readItems (s : Setting) : List (Field σ) → σ → List Tree → Read (List (Field σ) × List Tree × σ)
  | field :: fields, a, tree :: items => do
    let fill ← field.fill s tree
    readItems s fields (fill a) items
  | fields, a, items => .ok (fields, items, a)

/-- The first required field of which the key is not among those given. -/
def missing? (r : Record σ) (seen : List String) : Option (Field σ) :=
  r.fields.find? fun field => field.required && !seen.contains field.key

/-- The number of fields before the first required one. -/
def optionalCount (fields : List (Field σ)) : Nat := (fields.takeWhile (!·.required)).length

def read (r : Record σ) : Reader σ := fun s tree =>
  match tree with
  | .object members ending => do
    let inner ← s.enter
    let (seen, a) ← r.readMembers inner [] r.blank members
    unlessFault ending.readFault?
    match r.missing? seen with
    | some field => throw (.missing field.key)
    | none => return a
  | .array items ending => do
    let inner ← s.enter
    let (fields, items, a) ← readItems inner r.fields r.blank items
    if !items.isEmpty then
      let count := r.fields.length
      throw (if s.kept then .tooLong (count + items.length) count else .fault .malformed)
    unlessFault ending.readFault?
    if fields.any (·.required) then
      throw (.tooShort (r.fields.length - fields.length + optionalCount fields) r.name
        r.fields.length)
    return a
  | tree => .error (mismatch (.record r.name) tree)

def write (r : Record σ) (a : σ) : Value :=
  .object (r.fields.filterMap fun field => (field.write a).map (field.key, ·))

/-- The format of a record. -/
def format (r : Record σ) : Format σ := ⟨r.read, r.write⟩

end Record

end ProviderCode
