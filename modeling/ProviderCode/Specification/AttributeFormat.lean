import ProviderCode.Specification.Attribute
import ProviderCode.Specification.ElementTypeFormat

/-!
# Formats of attributes, blocks and documents

Attributes and blocks are tagged records: a name next to the key of a kind. The records of the kinds
are given for any format of the children, so that the same description serves for reading the tree
and for writing it.
-/

namespace ProviderCode

open Json (Value)

/-! ### Contents of the kinds -/

namespace Leaf

/-- A scalar attribute. -/
def scalarRecord {τ : Type} (literal : Format τ) : Record (AttributeFacets τ) where
  name := "PrimitiveAttribute"
  blank := AttributeFacets.blank
  fields := AttributeFacets.fieldsBefore literal ++ AttributeFacets.fieldsAfter

/-- A facets field of a record that pairs the facets with something else. -/
def paired {φ γ : Type} (field : Field φ) : Field (φ × γ) :=
  field.within (·.1) fun f r => (f r.1, r.2)

def collectionRecord : Record (AttributeFacets Empty × Option ElementType) where
  name := "CollectionAttribute"
  blank := (AttributeFacets.blank, none)
  fields := (AttributeFacets.fieldsBefore Format.never).map paired ++
    .optional "element_type" ElementType.format (·.2) (fun v r => (r.1, v)) ::
    AttributeFacets.fieldsAfter.map paired

def objectRecord : Record (AttributeFacets Empty × Option (List (String × ElementType))) where
  name := "ObjectAttribute"
  blank := (AttributeFacets.blank, none)
  fields :=
    .optional "attribute_types" ElementType.attributeFormat.list (·.2) (fun v r => (r.1, v)) ::
    (AttributeFacets.fieldsBefore Format.never ++ AttributeFacets.fieldsAfter).map paired

/-- The name of the kind, and the content written under it. -/
def entry : Leaf → String × Value
  | .bool facets => ("bool", (scalarRecord Format.bool).write facets)
  | .float64 facets => ("float64", (scalarRecord Format.float).write facets)
  | .int64 facets => ("int64", (scalarRecord Format.int64).write facets)
  | .number facets => ("number", (scalarRecord Format.never).write facets)
  | .string facets => ("string", (scalarRecord Format.string).write facets)
  | .collection shape facets element => (shape.name, collectionRecord.write (facets, element))
  | .object facets attributes => ("object", objectRecord.write (facets, attributes))

def readScalar : Scalar → Reader Leaf
  | .bool, s, tree => .bool <$> (scalarRecord Format.bool).read s tree
  | .float64, s, tree => .float64 <$> (scalarRecord Format.float).read s tree
  | .int64, s, tree => .int64 <$> (scalarRecord Format.int64).read s tree
  | .number, s, tree => .number <$> (scalarRecord Format.never).read s tree
  | .string, s, tree => .string <$> (scalarRecord Format.string).read s tree

/-- How the content of each kind is read. -/
def kind? (name : String) : Option (Reader Leaf) :=
  match Scalar.ofName? name, Shape.ofName? name with
  | some type, _ => some (readScalar type)
  | none, some shape => some fun s tree => do
    let (facets, element) ← collectionRecord.read s tree
    return .collection shape facets element
  | none, none =>
    if name = "object" then some fun s tree => do
      let (facets, attributes) ← objectRecord.read s tree
      return .object facets attributes
    else none

end Leaf

namespace AttributeObject

/-- The object of a nested attribute. -/
def record {α : Type} (child : Format α) : Record (AttributeObject α) where
  name := "NestedAttributeObject"
  blank := {}
  fields :=
    shared ObjectFacets.externalField ::
    .defaulted "attributes" child.list (·.attributes) (fun v r => { r with attributes := v }) ::
    ObjectFacets.fieldsAfter.map shared
where
  shared (field : Field ObjectFacets) : Field (AttributeObject α) :=
    field.within (·.toObjectFacets) fun f r => { r with toObjectFacets := f r.toObjectFacets }

end AttributeObject

namespace AttributeKind

variable {α : Type} (child : Format α)

def nestedRecord : Record (AttributeFacets Empty × Option (AttributeObject α)) where
  name := "NestedAttribute"
  blank := (AttributeFacets.blank, none)
  fields := (AttributeFacets.fieldsBefore Format.never).map Leaf.paired ++
    .optional "nested_object" (AttributeObject.record child).format (·.2)
      (fun v r => (r.1, v)) ::
    AttributeFacets.fieldsAfter.map Leaf.paired

def singleRecord : Record (AttributeFacets Empty × Option ExternalType × List α) where
  name := "SingleNestedAttribute"
  blank := (AttributeFacets.blank, none, [])
  fields :=
    .optional "associated_external_type" ExternalType.record.format (·.2.1)
      (fun v r => (r.1, v, r.2.2)) ::
    .defaulted "attributes" child.list (·.2.2) (fun v r => (r.1, r.2.1, v)) ::
    (AttributeFacets.fieldsBefore Format.never ++ AttributeFacets.fieldsAfter).map Leaf.paired

/-- The key of a nested attribute. -/
def nestedName : Shape → String
  | .list => "list_nested"
  | .map => "map_nested"
  | .set => "set_nested"

/-- The name of the kind, and the content written under it. -/
def entry : AttributeKind α → String × Value
  | .leaf content => content.entry
  | .nested shape facets object => (nestedName shape, (nestedRecord child).write (facets, object))
  | .single facets external attributes =>
    ("single_nested", (singleRecord child).write (facets, external, attributes))

def readNested (shape : Shape) : Reader (AttributeKind α) := fun s tree => do
  let (facets, object) ← (nestedRecord child).read s tree
  return .nested shape facets object

/-- How the content of each kind is read. -/
def kind? : String → Option (Reader (AttributeKind α))
  | "list_nested" => some (readNested child .list)
  | "map_nested" => some (readNested child .map)
  | "set_nested" => some (readNested child .set)
  | "single_nested" => some fun s tree => do
    let (facets, external, attributes) ← (singleRecord child).read s tree
    return .single facets external attributes
  | name => (Leaf.kind? name).map fun reader s tree => .leaf <$> reader s tree

/-- The names of the kinds. -/
def names : List String :=
  ["bool", "float64", "int64", "number", "string", "list", "map", "set", "object", "list_nested",
    "map_nested", "set_nested", "single_nested"]

/-- A kind on its own is a choice. -/
def format : Format (AttributeKind α) where
  read := Choice.readAlternative names (kind? child)
  write kind := .object [entry child kind]

end AttributeKind

namespace BlockObject

/-- The object of a nested block. -/
def record {α β : Type} (child : Format α) (block : Format β) : Record (BlockObject α β) where
  name := "NestedBlockObject"
  blank := {}
  fields :=
    shared ObjectFacets.externalField ::
    .defaulted "attributes" child.list (·.attributes) (fun v r => { r with attributes := v }) ::
    .defaulted "blocks" block.list (·.blocks) (fun v r => { r with blocks := v }) ::
    ObjectFacets.fieldsAfter.map shared
where
  shared (field : Field ObjectFacets) : Field (BlockObject α β) :=
    field.within (·.toObjectFacets) fun f r => { r with toObjectFacets := f r.toObjectFacets }

end BlockObject

namespace BlockKind

variable {α β : Type} (child : Format α) (block : Format β)

def nestedRecord : Record (BlockFacets × Option (BlockObject α β)) where
  name := "NestedBlock"
  blank := ({}, none)
  fields := BlockFacets.fieldsBefore.map Leaf.paired ++
    .optional "nested_object" (BlockObject.record child block).format (·.2)
      (fun v r => (r.1, v)) ::
    BlockFacets.fieldsAfter.map Leaf.paired

def singleRecord : Record (BlockFacets × Option ExternalType × List α × List β) where
  name := "SingleNestedBlock"
  blank := ({}, none, [], [])
  fields :=
    .optional "associated_external_type" ExternalType.record.format (·.2.1)
      (fun v r => (r.1, v, r.2.2)) ::
    .defaulted "attributes" child.list (·.2.2.1) (fun v r => (r.1, r.2.1, v, r.2.2.2)) ::
    .defaulted "blocks" block.list (·.2.2.2) (fun v r => (r.1, r.2.1, r.2.2.1, v)) ::
    (BlockFacets.fieldsBefore ++ BlockFacets.fieldsAfter).map Leaf.paired

/-- The key of a nested block. -/
def nestedName : BlockShape → String
  | .list => "list_nested"
  | .set => "set_nested"

/-- The name of the kind, and the content written under it. -/
def entry : BlockKind α β → String × Value
  | .nested shape facets object =>
    (nestedName shape, (nestedRecord child block).write (facets, object))
  | .single facets external attributes blocks =>
    ("single_nested", (singleRecord child block).write (facets, external, attributes, blocks))

def readNested (shape : BlockShape) : Reader (BlockKind α β) := fun s tree => do
  let (facets, object) ← (nestedRecord child block).read s tree
  return .nested shape facets object

/-- How the content of each kind is read. -/
def kind? : String → Option (Reader (BlockKind α β))
  | "list_nested" => some (readNested child block .list)
  | "set_nested" => some (readNested child block .set)
  | "single_nested" => some fun s tree => do
    let (facets, external, attributes, blocks) ← (singleRecord child block).read s tree
    return .single facets external attributes blocks
  | _ => none

/-- The names of the kinds. -/
def names : List String := ["list_nested", "set_nested", "single_nested"]

/-- A kind on its own is a choice. -/
def format : Format (BlockKind α β) where
  read := Choice.readAlternative names (kind? child block)
  write kind := .object [entry child block kind]

end BlockKind

/-! ### The tree -/

/-- A tagged record of which the alternative is already written. -/
def tagged (name : String) (entry : String × Value) : Value := Tagged.write name entry.1 entry.2

mutual

def Attribute.write : Attribute → Value
  | .mk name (.leaf leaf) => tagged name leaf.entry
  | .mk name (.nested shape facets none) =>
    tagged name (AttributeKind.entry Format.value (.nested shape facets none))
  | .mk name (.nested shape facets (some ⟨object, attributes⟩)) =>
    tagged name
      (AttributeKind.entry Format.value
        (.nested shape facets (some ⟨object, writeAttributes attributes⟩)))
  | .mk name (.single facets external attributes) =>
    tagged name
      (AttributeKind.entry Format.value (.single facets external (writeAttributes attributes)))
termination_by structural child => child

def writeAttributes : List Attribute → List Value
  | [] => []
  | child :: attributes => child.write :: writeAttributes attributes
termination_by structural attributes => attributes

end

mutual

def Block.write : Block → Value
  | .mk name (.nested shape facets none) =>
    tagged name (BlockKind.entry Format.value Format.value (.nested shape facets none))
  | .mk name (.nested shape facets (some ⟨object, attributes, blocks⟩)) =>
    tagged name
      (BlockKind.entry Format.value Format.value
        (.nested shape facets (some ⟨object, writeAttributes attributes, writeBlocks blocks⟩)))
  | .mk name (.single facets external attributes blocks) =>
    tagged name
      (BlockKind.entry Format.value Format.value
        (.single facets external (writeAttributes attributes) (writeBlocks blocks)))
termination_by structural block => block

def writeBlocks : List Block → List Value
  | [] => []
  | block :: blocks => block.write :: writeBlocks blocks
termination_by structural blocks => blocks

end

/-- Reads attributes inside each other up to a depth. -/
def Attribute.readTo : Nat → Reader Attribute
  | 0 => fun _ _ => .error (.fault .malformed)
  | depth + 1 => fun s tree => do
    let (name, kind) ← Tagged.read "Attribute" "AttributeKind"
      (AttributeKind.kind? ⟨Attribute.readTo depth, Attribute.write⟩) s tree
    return .mk name kind

/-- No attribute that is read is deeper than a document. -/
def Attribute.format : Format Attribute := ⟨Attribute.readTo (Setting.deepest + 1), Attribute.write⟩

/-- Reads blocks inside each other up to a depth. -/
def Block.readTo : Nat → Reader Block
  | 0 => fun _ _ => .error (.fault .malformed)
  | depth + 1 => fun s tree => do
    let (name, kind) ← Tagged.read "Block" "BlockKind"
      (BlockKind.kind? Attribute.format ⟨Block.readTo depth, Block.write⟩) s tree
    return .mk name kind

def Block.format : Format Block := ⟨Block.readTo (Setting.deepest + 1), Block.write⟩

/-! ### Documents -/

def Schema.record : Record Schema where
  name := "Schema"
  blank := {}
  fields := [
    .defaulted "attributes" Attribute.format.list (·.attributes)
      fun v r => { r with attributes := v },
    .defaulted "blocks" Block.format.list (·.blocks) fun v r => { r with blocks := v },
    .optional "description" .string (·.description) fun v r => { r with description := v },
    .optional "deprecation_message" .string (·.deprecation)
      fun v r => { r with deprecation := v }]

def Resource.record : Record Resource where
  name := "Resource"
  blank := { name := "" }
  fields := [
    .mandatory "name" .string (·.name) fun v r => { r with name := v },
    .optional "schema" Schema.record.format (·.schema) fun v r => { r with schema := v }]

def Specification.record : Record Specification where
  name := "Specification"
  blank := {}
  fields := [
    .optional "version" .string (·.version) fun v r => { r with version := v },
    .defaulted "resources" Resource.record.format.list (·.resources)
      fun v r => { r with resources := v }]

end ProviderCode
