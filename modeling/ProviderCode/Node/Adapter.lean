import ProviderCode.Node.Field
import ProviderCode.Template.Adapters

/-!
# Adapters

A single object that is bound to an external type gets methods that convert its values to that type
and back. Its fields are scalars, or single objects that are bound themselves and so have such
methods too. Nothing else is supported, and a bound node that is not supported is an error.
-/

namespace ProviderCode

open Json (Value)

/-- The adapters of an object as templates know them. -/
def ExternalType.context (name : String) (external : ExternalType) (fields : List Conversion) :
    Value :=
  .object [
    ("name", .string (Name.pascal name)),
    ("external_type", .string external.type),
    ("type_reference", .string external.reference),
    ("pointer", .bool external.isPointer),
    ("zero", .string external.zero),
    ("suffix", .string external.suffix),
    ("fields", .array (fields.map Conversion.context))]

namespace Node

/-- The fields to convert, if adapters can be generated for a node that is bound. -/
def conversions (name : String) (kind : NodeKind) (body : NestedObject Node) :
    Generated (List Conversion) :=
  if !kind.isSingle then .error (.unsupported name kind.name "Associated external type")
  else if !body.generatesType then
    .error (.unsupported name kind.name "Associated external type with a custom type override")
  else
    match body.blocks with
    | (blockName, block) :: _ =>
      .error (.unsupported blockName block.kind.name
        "Conversion to an associated external type field")
    | [] => body.attributes.mapM fun child => child.2.conversion child.1

/-- The attributes of an object that are bound themselves. -/
def boundAttributes (body : NestedObject Node) : Children Node :=
  body.attributes.filter (·.2.isBound)

theorem sizes_boundAttributes (body : NestedObject Node) :
    sizes (boundAttributes body) ≤ sizes body.children := by
  have (children : Children Node) : sizes (children.filter (·.2.isBound)) ≤ sizes children := by
    induction children with
    | nil => simp
    | cons child rest ih =>
      rw [List.filter_cons]
      split <;> simp only [sizes_cons] <;> omega
  have := this body.attributes
  simp only [boundAttributes, NestedObject.children, sizes_append]
  omega

/-- The adapters of bound nodes and of the bound nodes below them, parents first. -/
def adaptersOf (done : Array String) : Children Node → Generated (Array String)
  | [] => .ok done
  | (name, node) :: pending =>
    match _ : node.object? with
    | none => adaptersOf done pending
    | some body =>
      match body.external with
      | none => adaptersOf done pending
      | some external => do
        let fields ← conversions name node.kind body
        let text ← Template.adapters.render name (external.context name fields)
        adaptersOf (done.push text) (boundAttributes body ++ pending)
termination_by pending => sizes pending
decreasing_by
  · have := node.size_pos
    simp only [sizes_cons]
    omega
  · have := node.size_pos
    simp only [sizes_cons]
    omega
  · have := sizes_boundAttributes body
    have := node.size_eq
    rw [children_eq ‹_›] at this
    simp only [sizes_append, sizes_cons]
    omega

/-- The adapters of a node and of the bound nodes below it; nothing unless it is bound. -/
def adapters (name : String) (node : Node) : Generated String := do
  let texts ← adaptersOf #[] [(name, node)]
  return String.join texts.toList

end Node

end ProviderCode
