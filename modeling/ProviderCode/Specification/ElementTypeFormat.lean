import ProviderCode.Format.Choice
import ProviderCode.Format.Record
import ProviderCode.Specification.ElementType
import ProviderCode.Specification.FacetFormat

/-!
# Format of element types

An element type is a choice between its kinds. The attributes of an object are tagged records: a
name next to the key of a kind.
-/

namespace ProviderCode

open Json (Value)

def Scalar.name : Scalar → String
  | .bool => "bool"
  | .float64 => "float64"
  | .int64 => "int64"
  | .number => "number"
  | .string => "string"

def Shape.name : Shape → String
  | .list => "list"
  | .map => "map"
  | .set => "set"

/-- The scalar type of a name. -/
def Scalar.ofName? : String → Option Scalar
  | "bool" => some .bool
  | "float64" => some .float64
  | "int64" => some .int64
  | "number" => some .number
  | "string" => some .string
  | _ => none

/-- The collection of a name. -/
def Shape.ofName? : String → Option Shape
  | "list" => some .list
  | "map" => some .map
  | "set" => some .set
  | _ => none

namespace ElementType

/-- The names of the kinds. -/
def names : List String :=
  ["bool", "float64", "int64", "number", "string", "list", "map", "set", "object"]

/-! ### Contents of the kinds -/

def customTypeField {σ : Type} (get : σ → Option CustomType) (set : Option CustomType → σ → σ) :
    Field σ :=
  .optional "custom_type" CustomType.record.format get set

def scalarRecord : Record (Option CustomType) where
  name := "PrimitiveElement"
  blank := none
  fields := [customTypeField id fun v _ => v]

def collectionRecord {ε : Type} [Inhabited ε] (element : Format ε) :
    Record (Option CustomType × ε) where
  name := "CollectionElement"
  blank := (none, default)
  fields := [
    customTypeField (·.1) fun v r => (v, r.2),
    .mandatory "element_type" element (·.2) fun v r => (r.1, v)]

def objectRecord {α : Type} (child : Format α) : Record (Option CustomType × List α) where
  name := "ObjectElement"
  blank := (none, [])
  fields := [
    customTypeField (·.1) fun v r => (v, r.2),
    .defaulted "attribute_types" child.list (·.2) fun v r => (r.1, v)]

/-! ### Writing -/

instance : Inhabited Value := ⟨.null⟩

mutual

/-- The name of the kind, and the content written under it. -/
def entry : ElementType → String × Value
  | .scalar type custom => (type.name, scalarRecord.write custom)
  | .collection shape custom element =>
    (shape.name, (collectionRecord Format.value).write (custom, .object [element.entry]))
  | .object custom attributes =>
    ("object", (objectRecord Format.value).write (custom, attributeValues attributes))
termination_by structural type => type

/-- The attributes of an object, written as tagged records. -/
def attributeValues : List (String × ElementType) → List Value
  | [] => []
  | (name, type) :: attributes =>
    Tagged.write name type.entry.1 type.entry.2 :: attributeValues attributes
termination_by structural attributes => attributes

end

def write (type : ElementType) : Value := .object [type.entry]

/-! ### Reading -/

/-- Reads an element type given how the content of each kind is read. -/
def readWith (kind? : String → Option (Reader ElementType)) : Reader ElementType :=
  Choice.read names fun s key tree =>
    match kind? key with
    | some reader => Choice.withContent reader s tree
    | none => .error (.unknown key names)

/-- The attribute of an object type, given how the content of each kind is read. -/
def attributeFormatWith (kind? : String → Option (Reader ElementType)) :
    Format (String × ElementType) where
  read := Tagged.read "ObjectAttributeType" "ElementType" kind?
  write a := Tagged.write a.1 a.2.entry.1 a.2.entry.2

/-- How the content of each kind is read, up to a depth of types inside each other. -/
def kind? : Nat → String → Option (Reader ElementType)
  | 0, _ => none
  | depth + 1, name =>
    match Scalar.ofName? name, Shape.ofName? name with
    | some type, _ => some fun s tree => .scalar type <$> scalarRecord.read s tree
    | none, some shape => some fun s tree => do
      let (custom, element) ← (collectionRecord ⟨readWith (kind? depth), write⟩).read s tree
      return .collection shape custom element
    | none, none =>
      if name = "object" then some fun s tree => do
        let (custom, attributes) ← (objectRecord (attributeFormatWith (kind? depth))).read s tree
        return .object custom attributes
      else none

/-- No element type that is read is deeper than a document. -/
def format : Format ElementType := ⟨readWith (kind? (Setting.deepest + 1)), write⟩

/-- The format of an object's attributes. -/
def attributeFormat : Format (String × ElementType) :=
  attributeFormatWith (kind? (Setting.deepest + 1))

end ElementType

end ProviderCode
