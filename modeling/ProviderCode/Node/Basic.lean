import ProviderCode.Node.Children
import ProviderCode.Node.Kind

/-!
# Nodes

A node is an attribute or block of a specification prepared for generation: facets that generate
nothing are gone, and the children of an object are in the order in which they are generated. The
name under which a node stands is its parent's affair.
-/

namespace ProviderCode

/-- A default value, as an expression is made of it. -/
inductive DefaultValue
  | bool (b : Bool)
  | float64 (x : Float)
  | int64 (i : Int64)
  | string (s : String)
  | custom (definition : Definition)
deriving BEq, Repr

/-- The custom validators or plan modifiers for one kind of values. -/
structure Extensions where
  kind : ValueKind
  definitions : List Definition
deriving BEq, Repr

/-- The facets of a node. -/
structure NodeFacets where
  mode : Option Mode := none
  customType : Option CustomType := none
  default : Option DefaultValue := none
  deprecation : Option String := none
  description : Option String := none
  planModifiers : Extensions
  sensitive : Option Bool := none
  validators : Extensions
deriving BEq, Repr

/-- The object of a nested node. -/
structure NestedObject (α : Type) where
  external : Option ExternalType := none
  customType : Option CustomType := none
  planModifiers : Extensions := ⟨.object, []⟩
  validators : Extensions := ⟨.object, []⟩
  attributes : List (String × α) := []
  blocks : List (String × α) := []

inductive Node
  | scalar (type : Scalar) (facets : NodeFacets)
  | collection (shape : Shape) (facets : NodeFacets) (element : ElementType)
  /-- The attributes are in the order of their names. -/
  | object (facets : NodeFacets) (attributes : List (String × ElementType))
  | nested (kind : NestedKind) (facets : NodeFacets) (object : NestedObject Node)

namespace NestedObject

variable {α : Type}

/-- The children in order, attributes before blocks. -/
def children (object : NestedObject α) : Children α := object.attributes ++ object.blocks

/-- Whether a type and a value type are generated for the object. -/
def generatesType (object : NestedObject α) : Bool := object.customType.isNone

end NestedObject

namespace Node

def kind : Node → NodeKind
  | .scalar type _ => .scalar type
  | .collection shape _ _ => .collection shape
  | .object _ _ => .object
  | .nested kind _ _ => .nested kind

def facets : Node → NodeFacets
  | .scalar _ facets | .collection _ facets _ | .object facets _ | .nested _ facets _ => facets

/-- The object of a nested node. -/
def object? : Node → Option (NestedObject Node)
  | .nested _ _ body => some body
  | _ => none

/-- Whether a node has an object. -/
def isNested (node : Node) : Bool := node.object?.isSome

/-- The children of a node, attributes before blocks. -/
def children (node : Node) : Children Node :=
  match node.object? with
  | some body => body.children
  | none => []

theorem children_eq {node : Node} {body : NestedObject Node} (h : node.object? = some body) :
    node.children = body.children := by
  simp only [children, h]

/-- The names of the attributes, where the node has attributes. -/
def attributeKeys? (node : Node) : Option (List String) :=
  node.object?.map fun body => Children.keys body.attributes

/-- The names of the blocks, where the node can have blocks. -/
def blockKeys? : Node → Option (List String)
  | .nested kind _ body => if kind.isBlock then some (Children.keys body.blocks) else none
  | _ => none

/-- The type that replaces the node's own in the model; for a single object that of the object. -/
def customType : Node → Option CustomType
  | .nested kind facets body => if kind.isSingle then body.customType else facets.customType
  | .scalar _ facets | .collection _ facets _ | .object facets _ => facets.customType

/-- Whether the node's object is bound to an external type. -/
def isBound (node : Node) : Bool :=
  match node.object? with
  | some body => body.external.isSome
  | none => false

mutual

/-- The number of nodes in a tree. -/
def size : Node → Nat
  | .scalar _ _ | .collection _ _ _ | .object _ _ => 1
  | .nested _ _ ⟨_, _, _, _, attributes, blocks⟩ => 1 + sizes attributes + sizes blocks
termination_by structural node => node

/-- The number of nodes in several trees. -/
def sizes : Children Node → Nat
  | [] => 0
  | (_, node) :: rest => node.size + sizes rest
termination_by structural children => children

end

theorem size_pos (node : Node) : 0 < node.size := by
  cases node with
  | nested kind facets body =>
    cases body
    rw [size, Nat.add_assoc, Nat.add_comm]
    exact Nat.succ_pos _
  | _ => exact Nat.one_pos

@[simp] theorem sizes_nil : sizes [] = 0 := rfl

@[simp] theorem sizes_cons (child : String × Node) (rest : Children Node) :
    sizes (child :: rest) = child.2.size + sizes rest := by rw [sizes]

@[simp] theorem sizes_append (a b : Children Node) : sizes (a ++ b) = sizes a + sizes b := by
  induction a with
  | nil => simp
  | cons child rest ih => simp [ih, Nat.add_assoc]

theorem sizes_filter_le (p : String × Node → Bool) (children : Children Node) :
    sizes (children.filter p) ≤ sizes children := by
  induction children with
  | nil => exact Nat.le_refl _
  | cons child rest ih =>
    rw [List.filter_cons]
    split
    · rw [sizes_cons, sizes_cons]
      exact Nat.add_le_add_left ih _
    · rw [sizes_cons]
      exact Nat.le_trans ih (Nat.le_add_left _ _)

/-- A node is one more than its children. -/
theorem size_eq (node : Node) : node.size = 1 + sizes node.children := by
  cases node with
  | nested kind facets body =>
    cases body
    simp [size, children, object?, NestedObject.children, Nat.add_assoc]
  | _ => simp [size, children, object?]

end Node

end ProviderCode
