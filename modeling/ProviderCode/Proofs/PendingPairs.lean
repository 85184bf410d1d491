import ProviderCode.Node.TypePair
import ProviderCode.Proofs.Preorder
import ProviderCode.Proofs.Results

/-!
# Pairs of pending nodes

Type pairs are emitted while a list of pending nodes is kept, in which nodes without an object have
no place.  What is emitted are the pairs of all nodes in preorder, one after the other, or the first
error among them.
-/

namespace ProviderCode.Node

/-- The own pairs of nodes, one after the other. -/
def ownPairs (nodes : Children Node) : Generated String := do
  let pairs ← nodes.mapM fun child => child.2.ownTypePair child.1
  return String.join pairs

theorem ownPairs_nil : ownPairs [] = .ok "" := rfl

theorem ownPairs_cons (child : String × Node) (nodes : Children Node) :
    ownPairs (child :: nodes) = do
      let pair ← child.2.ownTypePair child.1
      let pairs ← ownPairs nodes
      return pair ++ pairs := by
  simp only [ownPairs, List.mapM_cons, bind_assoc, pure_bind, String.join_cons]

theorem ownPairs_append (a b : Children Node) :
    ownPairs (a ++ b) = do
      let first ← ownPairs a
      let second ← ownPairs b
      return first ++ second := by
  induction a with
  | nil =>
    simp only [List.nil_append, ownPairs_nil]
    cases ownPairs b with
    | error e => rfl
    | ok pairs => exact congrArg Except.ok String.empty_append.symm
  | cons child rest ih =>
    simp only [List.cons_append, ownPairs_cons, ih, bind_assoc, pure_bind, String.append_assoc]

/-- Nodes without an object emit nothing, neither of their own nor below. -/
theorem ownPairs_walk_leaf {node : Node} (h : node.isNested = false) (name : String) :
    ownPairs (node.walk name) = .ok "" := by
  have hobject : node.object? = none :=
    Option.isNone_iff_eq_none.mp (Option.isSome_eq_false_iff.mp h)
  have hown : node.ownTypePair name = .ok "" := by
    rw [ownTypePair, hobject]
  rw [walk_eq, children, hobject, walkAll_nil, ownPairs_cons, hown]
  exact congrArg Except.ok String.append_empty

/-- So they need not be kept pending. -/
theorem ownPairs_filter (children : Children Node) :
    ownPairs (walkAll (children.filter (·.2.isNested))) = ownPairs (walkAll children) := by
  induction children with
  | nil => rfl
  | cons child rest ih =>
    cases hchild : child.2.isNested with
    | true =>
      rw [List.filter_cons, if_pos hchild, walkAll_cons, walkAll_cons, ownPairs_append, ih,
        ownPairs_append]
    | false =>
      rw [List.filter_cons, if_neg (Bool.eq_false_iff.mp hchild), ih, walkAll_cons, ownPairs_append,
        ownPairs_walk_leaf hchild]
      cases ownPairs (walkAll rest) with
      | error e => rfl
      | ok pairs => exact congrArg Except.ok String.empty_append.symm

/-- **Pending nodes.**  What is done stays in front, and the pairs of all pending nodes and of what
is below them follow in preorder. -/
theorem emitPairs_eq (done : String) (pending : Children Node) :
    emitPairs done pending = do
      let pairs ← ownPairs (walkAll pending)
      return done ++ pairs := by
  fun_induction emitPairs done pending with
  | case1 done => exact congrArg Except.ok String.append_empty.symm
  | case2 done name node pending ih =>
    -- the children of a node take its place, without those that emit nothing
    have hchildren : ownPairs (walkAll (node.children.filter (·.2.isNested) ++ pending)) =
        ownPairs (walkAll node.children ++ walkAll pending) := by
      rw [walkAll_append, ownPairs_append, ownPairs_filter, ← ownPairs_append]
    simp only [ih, hchildren, walkAll_cons, walk_eq, List.cons_append, ownPairs_cons, bind_assoc,
      pure_bind, String.append_assoc]

/-- The type pairs of a node are its own and those of its descendants, in preorder. -/
theorem typePairs_eq_ownPairs (name : String) (node : Node) :
    node.typePairs name = ownPairs (node.walk name) := by
  rw [typePairs, emitPairs_eq, walkAll_cons, walkAll_nil, List.append_nil]
  cases ownPairs (node.walk name) with
  | error e => rfl
  | ok pairs => exact congrArg Except.ok String.empty_append

end ProviderCode.Node
