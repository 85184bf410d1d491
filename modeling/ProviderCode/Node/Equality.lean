import ProviderCode.Node.Basic

/-!
# Equality of nodes

Two nodes are equal if their kinds, facets and contents are, and their children of one name are. Of
the pairs of nodes still to be compared a list is kept, so that trees may be of any depth.
-/

namespace ProviderCode

namespace NestedObject

variable {α β : Type}

/-- Whether two objects agree in all but their children, and in the names of these. -/
def sameShell (a : NestedObject α) (b : NestedObject β) : Bool :=
  a.external == b.external && a.customType == b.customType && a.planModifiers == b.planModifiers
    && a.validators == b.validators && Children.keys a.attributes == Children.keys b.attributes
    && Children.keys a.blocks == Children.keys b.blocks

end NestedObject

namespace Node

/-- Whether two nodes agree in all but their objects. -/
def sameShell : Node → Node → Bool
  | .scalar t f, .scalar t' f' => t == t' && f == f'
  | .collection s f e, .collection s' f' e' => s == s' && f == f' && e == e'
  | .object f as, .object f' as' => f == f' && as == as'
  | .nested k f _, .nested k' f' _ => k == k' && f == f'
  | _, _ => false

/-- Children of two objects side by side. -/
def pairs (a b : Children Node) : List (Node × Node) := (Children.values a).zip (Children.values b)

/-- The number of nodes on the left sides. -/
def leftSizes : List (Node × Node) → Nat
  | [] => 0
  | (a, _) :: pending => a.size + leftSizes pending

theorem leftSizes_append (a b : List (Node × Node)) :
    leftSizes (a ++ b) = leftSizes a + leftSizes b := by
  induction a with
  | nil => simp [leftSizes]
  | cons pair rest ih => simp [leftSizes, ih, Nat.add_assoc]

theorem leftSizes_pairs (a b : Children Node) : leftSizes (pairs a b) ≤ sizes a := by
  induction a generalizing b with
  | nil => simp [pairs, leftSizes, Children.values]
  | cons child rest ih =>
    cases b with
    | nil => simp [pairs, leftSizes, Children.values]
    | cons other b =>
      have := ih b
      simp only [pairs, leftSizes, Children.values, List.map_cons, List.zip_cons_cons,
        sizes_cons] at this ⊢
      omega

/-- Whether all pairs are equal. -/
def allEqual : List (Node × Node) → Bool
  | [] => true
  | (a, b) :: pending =>
    if !a.sameShell b then false
    else
      match _ : a.object?, b.object? with
      | some x, some y =>
        if x.sameShell y then allEqual (pairs x.children y.children ++ pending) else false
      | none, none => allEqual pending
      | _, _ => false
termination_by pending => leftSizes pending
decreasing_by
  · have := leftSizes_pairs x.children y.children
    have := a.size_eq
    rw [children_eq ‹_›] at this
    simp only [leftSizes, leftSizes_append]
    omega
  · have := a.size_pos
    simp only [leftSizes]
    omega

/-- Equality of nodes. -/
def equal (a b : Node) : Bool := allEqual [(a, b)]

instance : BEq Node := ⟨equal⟩

end Node

/-- Objects are equal if they agree in all but their children and these are equal in order. -/
def NestedObject.equal (a b : NestedObject Node) : Bool :=
  a.sameShell b && (Node.pairs a.children b.children).all fun pair => pair.1.equal pair.2

end ProviderCode
