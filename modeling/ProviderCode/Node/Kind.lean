import ProviderCode.Specification.Attribute

/-!
# Kinds of nodes

What a node of a schema tree is: its name in a specification, its type in a schema, and the kind of
value it holds.
-/

namespace ProviderCode

/-- The kinds of values of the framework. -/
inductive ValueKind
  | scalar (type : Scalar)
  | collection (shape : Shape)
  | object
deriving DecidableEq, Repr

/-- The kinds of nodes that own an object. -/
inductive NestedKind
  | attributes (shape : Shape)
  | singleAttribute
  | blocks (shape : BlockShape)
  | singleBlock
deriving DecidableEq, Repr

inductive NodeKind
  | scalar (type : Scalar)
  | collection (shape : Shape)
  | object
  | nested (kind : NestedKind)
deriving DecidableEq, Repr

/-- The framework's name for a scalar type. -/
def Scalar.framework : Scalar → String
  | .bool => "Bool"
  | .float64 => "Float64"
  | .int64 => "Int64"
  | .number => "Number"
  | .string => "String"

/-- The framework's name for a collection. -/
def Shape.framework : Shape → String
  | .list => "List"
  | .map => "Map"
  | .set => "Set"

def BlockShape.toShape : BlockShape → Shape
  | .list => .list
  | .set => .set

/-- The framework's name for a kind of values. -/
def ValueKind.framework : ValueKind → String
  | .scalar type => type.framework
  | .collection shape => shape.framework
  | .object => "Object"

namespace NestedKind

def isBlock : NestedKind → Bool
  | .attributes _ | .singleAttribute => false
  | .blocks _ | .singleBlock => true

/-- Whether the node holds one object rather than a collection of them. -/
def isSingle : NestedKind → Bool
  | .singleAttribute | .singleBlock => true
  | .attributes _ | .blocks _ => false

def valueKind : NestedKind → ValueKind
  | .attributes shape => .collection shape
  | .blocks shape => .collection shape.toShape
  | .singleAttribute | .singleBlock => .object

def name : NestedKind → String
  | .attributes .list => "list_nested"
  | .attributes .map => "map_nested"
  | .attributes .set => "set_nested"
  | .singleAttribute => "single_nested"
  | .blocks .list => "list_nested_block"
  | .blocks .set => "set_nested_block"
  | .singleBlock => "single_nested_block"

/-- The type of the node in a schema. -/
def schemaType : NestedKind → String
  | .attributes shape => shape.framework ++ "NestedAttribute"
  | .singleAttribute => "SingleNestedAttribute"
  | .blocks shape => shape.toShape.framework ++ "NestedBlock"
  | .singleBlock => "SingleNestedBlock"

end NestedKind

namespace NodeKind

def isBlock : NodeKind → Bool
  | .nested kind => kind.isBlock
  | .scalar _ | .collection _ | .object => false

/-- Whether the node holds one object. -/
def isSingle : NodeKind → Bool
  | .nested kind => kind.isSingle
  | .scalar _ | .collection _ | .object => false

def valueKind : NodeKind → ValueKind
  | .scalar type => .scalar type
  | .collection shape => .collection shape
  | .object => .object
  | .nested kind => kind.valueKind

/-- The name of the kind in a specification and in messages. -/
def name : NodeKind → String
  | .scalar .bool => "bool"
  | .scalar .float64 => "float64"
  | .scalar .int64 => "int64"
  | .scalar .number => "number"
  | .scalar .string => "string"
  | .collection .list => "list"
  | .collection .map => "map"
  | .collection .set => "set"
  | .object => "object"
  | .nested kind => kind.name

/-- The type of the node in a schema. -/
def schemaType : NodeKind → String
  | .scalar type => type.framework ++ "Attribute"
  | .collection shape => shape.framework ++ "Attribute"
  | .object => "ObjectAttribute"
  | .nested kind => kind.schemaType

end NodeKind

end ProviderCode
