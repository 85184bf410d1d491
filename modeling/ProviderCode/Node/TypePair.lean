import ProviderCode.Node.Field
import ProviderCode.Template.ObjectType
import ProviderCode.Template.ObjectValue

/-!
# Type pairs

For every nested object that no custom type replaces, a type and a value type are generated, named
after the node. Of the nodes still to be visited a list is kept, so that trees may be of any depth.
-/

namespace ProviderCode

open Json (Value)

/-- An object as templates know it. -/
def NestedObject.context (name : String) (object : NestedObject Node) : Value :=
  .object [
    ("name", .string (Name.pascal name)),
    ("fields", .array (object.fieldDescriptors.map FieldDescriptor.context))]

/-- The type and the value type of an object that belongs to the node `name`. -/
def NestedObject.typePair (name : String) (object : NestedObject Node) : Generated String := do
  let context := object.context name
  let type ← Template.objectType.render name context
  let value ← Template.objectValue.render name context
  return type ++ value

namespace Node

/-- The pair of a node itself, if it needs one. -/
def ownTypePair (name : String) (node : Node) : Generated String :=
  match node.object? with
  | some body => if body.generatesType then body.typePair name else .ok ""
  | none => .ok ""

/-- Appends the pairs of the pending nodes, each one's own before those below it, to what is done. Of
the children only those that have an object are kept pending. -/
def emitPairs (done : String) : Children Node → Generated String
  | [] => .ok done
  | (name, node) :: pending => do
    let pair ← node.ownTypePair name
    emitPairs (done ++ pair) (node.children.filter (·.2.isNested) ++ pending)
termination_by pending => sizes pending
decreasing_by
  have hsize := node.size_eq
  have hfilter := sizes_filter_le (·.2.isNested) node.children
  simp only [sizes_append, sizes_cons]
  omega

/-- The pairs of a node and its descendants in preorder. -/
def typePairs (name : String) (node : Node) : Generated String := emitPairs "" [(name, node)]

end Node

end ProviderCode
