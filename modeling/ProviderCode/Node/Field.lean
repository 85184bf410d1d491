import ProviderCode.Error
import ProviderCode.Json.Value
import ProviderCode.Node.Clause
import ProviderCode.Node.External

/-!
# Fields

What a node is inside the code of its parent: a field of the model, a field of a generated type and
value, and a field that is converted to a field of an external type.
-/

namespace ProviderCode

open Json (Value)

/-! ### Fields of the model -/

/-- A field of a model struct. -/
structure ModelField where
  /-- The name of the node, which the field's tag gives. -/
  tag : String
  valueType : Source

namespace ModelField

/-- The name of the struct field. -/
def name (field : ModelField) : String := Name.pascal field.tag

/-- The declaration of the struct field. -/
def source (field : ModelField) : Source :=
  Source.enclose [.name field.name, .fixed " "] field.valueType
    [.fixed " `tfsdk:\"", .verbatim field.tag, .fixed "\"`"]

end ModelField

/-- The field of the model that holds the node's value. -/
def Node.modelField (name : String) (node : Node) : ModelField where
  tag := name
  valueType :=
    match node.customType with
    | some custom => [.verbatim custom.valueType]
    | none => [.qualified .types node.kind.valueKind.framework]

/-! ### Fields of a generated type -/

/-- What a collection of elements needs to become an object's value. -/
structure FieldCollection where
  shape : Shape
  elementType : Source

/-- A field of a generated type and value. -/
structure FieldDescriptor where
  name : String
  valueType : Source
  /-- The expression of the field's type. -/
  attributeType : Source
  /-- Given for lists, maps and sets without a custom type. -/
  collection : Option FieldCollection

namespace FieldDescriptor

def pascal (field : FieldDescriptor) : String := Name.pascal field.name

def camel (field : FieldDescriptor) : String := Name.camel field.name

/-- The field as templates know it. -/
def context (field : FieldDescriptor) : Value :=
  let plain : List (String × Value) := [
    ("name", .string field.name),
    ("pascal", .string field.pascal),
    ("camel", .string field.camel),
    ("value_type", .string field.valueType.text),
    ("attr_type", .string field.attributeType.text)]
  let collection : Option (String × Value) := field.collection.map fun c =>
    ("collection", .object [
      ("kind", .string c.shape.framework),
      ("element_type", .string c.elementType.text)])
  .object (plain ++ collection.toList)

end FieldDescriptor

namespace Node

/-- The expression of the framework's own type of the values of a node called `name`. -/
def basetype (name : String) : Node → Source
  | .scalar type _ => [.qualified .basetypes (type.framework ++ "Type"), .fixed "\x7b\x7d"]
  | .collection shape _ element =>
    Source.enclose [.qualified .basetypes (shape.framework ++ "Type"), .fixed "\x7b\nElemType: "]
      element.expression [.fixed ",\n\x7d"]
  | .object _ types =>
    Source.enclose [.qualified .basetypes "ObjectType", .fixed "\x7b\nAttrTypes: "]
      (AttributeTypes.expression types) [.fixed ",\n\x7d"]
  | .nested kind _ body =>
    if kind.isSingle then
      [.qualified .basetypes "ObjectType", .fixed "\x7b\nAttrTypes: ", .name (Name.pascal name),
        .fixed "Value\x7b\x7d.AttributeTypes(ctx),\n\x7d"]
    else
      let element : Source :=
        match body.customType with
        | some custom => [.verbatim custom.type]
        | none => [.name (Name.pascal name), .fixed "Value\x7b\x7d.Type(ctx)"]
      Source.enclose
        [.qualified .basetypes (kind.valueKind.framework ++ "Type"), .fixed "\x7b\nElemType: "]
        element [.fixed ",\n\x7d"]

/-- The collection to convert, if the node is one of the framework's own. -/
def fieldCollection? : Node → Option FieldCollection
  | .collection shape f element =>
    if f.customType.isNone then some ⟨shape, element.expression⟩ else none
  | .scalar _ _ | .object _ _ | .nested _ _ _ => none

/-- The field of a generated type that the node is. -/
def fieldDescriptor (name : String) (node : Node) : FieldDescriptor where
  name
  valueType :=
    match node.customType with
    | some custom => [.verbatim custom.valueType]
    | none => [.qualified .basetypes (node.kind.valueKind.framework ++ "Value")]
  attributeType :=
    match node.customType with
    | some custom => [.verbatim custom.type]
    | none => node.basetype name
  collection := node.fieldCollection?

end Node

/-- The fields of an object in the order of their names; an attribute hides a block of its name. -/
def NestedObject.fieldDescriptors (object : NestedObject Node) : List FieldDescriptor :=
  let fields (children : Children Node) : Children FieldDescriptor :=
    children.map fun child => (child.1, child.2.fieldDescriptor child.1)
  Children.values (Children.merge (fields object.blocks) (fields object.attributes))

/-! ### Fields of an external type -/

/-- How a field is converted. -/
inductive Exchange
  /-- By a method of the framework's value, which a custom value type wraps. -/
  | scalar (type : Scalar) (wrapper : Option String)
  /-- By the adapters of the field's own value, which have this suffix. -/
  | object (suffix : String)

/-- A field that is converted to a field of an external type and back. -/
structure Conversion where
  name : String
  exchange : Exchange

/-- The method that gives the plain value of a scalar. -/
def Scalar.toMethod : Scalar → String
  | .number => "ValueBigFloat"
  | type => "Value" ++ type.framework ++ "Pointer"

/-- The function that makes a scalar of a plain value. -/
def Scalar.fromFunction : Scalar → String
  | .number => "NumberValue"
  | type => type.framework ++ "PointerValue"

/-- The conversion as templates know it. -/
def Conversion.context (c : Conversion) : Value :=
  let common := [
    ("name", Value.string c.name),
    ("pascal", .string (Name.pascal c.name)),
    ("camel", .string (Name.camel c.name))]
  match c.exchange with
  | .scalar type wrapper =>
    .object (common ++ [
      ("object", .bool false),
      ("to", .string type.toMethod),
      ("from", .string type.fromFunction),
      ("base", .string type.framework)] ++
      (wrapper.map fun w => ("custom_value_type", Value.string w)).toList ++ [
      ("type_name", .string ""),
      ("suffix", .string "")])
  | .object suffix =>
    .object (common ++ [
      ("object", .bool true),
      ("to", .string ""),
      ("from", .string ""),
      ("base", .string ""),
      ("type_name", .string (Name.pascal c.name)),
      ("suffix", .string suffix)])

/-- The conversion of a node; only scalars and bound single attributes can be converted. -/
def Node.conversion (name : String) (node : Node) : Generated Conversion :=
  let refused : Generated Conversion :=
    .error (.unsupported name node.kind.name "Conversion to an associated external type field")
  match node with
  | .scalar type f => .ok ⟨name, .scalar type (f.customType.map (·.valueType))⟩
  | .nested .singleAttribute _ body =>
    match body.external, body.customType with
    | some external, none => .ok ⟨name, .object external.suffix⟩
    | _, _ => refused
  | _ => refused

end ProviderCode
