import ProviderCode.Node.Basic

/-!
# Walking a tree

The nodes of a tree in preorder, each with the name under which it stands: a node comes before its
descendants, and these in the order of their names, attributes before blocks. Of the nodes still to
be visited a list is kept, so that trees may be of any depth.
-/

namespace ProviderCode.Node

/-- Goes through trees in preorder. -/
def visit {β : Type} (f : β → String → Node → β) (acc : β) : Children Node → β
  | [] => acc
  | (name, node) :: pending => visit f (f acc name node) (node.children ++ pending)
termination_by pending => sizes pending
decreasing_by
  have := node.size_eq
  simp only [sizes_append, sizes_cons]
  omega

/-- The node and its descendants in preorder. -/
def preorder (name : String) (node : Node) : Children Node :=
  (visit (fun acc name node => acc.push (name, node)) #[] [(name, node)]).toList

end ProviderCode.Node
