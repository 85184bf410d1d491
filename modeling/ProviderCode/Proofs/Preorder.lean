import ProviderCode.Node.Walk

/-!
# Preorder by recursion

What walking a tree with a list of pending nodes visits: a node, then its attributes with all their
descendants, then its blocks with all theirs.  Visiting trees is folding over this list.
-/

namespace ProviderCode.Node

mutual

/-- A node and its descendants in preorder, by recursion. -/
def walk (name : String) : Node → Children Node
  | .scalar type f => [(name, .scalar type f)]
  | .collection shape f element => [(name, .collection shape f element)]
  | .object f types => [(name, .object f types)]
  | .nested kind f ⟨external, customType, planModifiers, validators, as, bs⟩ =>
    (name, .nested kind f ⟨external, customType, planModifiers, validators, as, bs⟩) ::
      (walkAll as ++ walkAll bs)
termination_by structural node => node

/-- Several trees in preorder, one after the other. -/
def walkAll : Children Node → Children Node
  | [] => []
  | (name, node) :: rest => node.walk name ++ walkAll rest
termination_by structural children => children

end

@[simp] theorem walkAll_nil : walkAll [] = [] := rfl

@[simp] theorem walkAll_cons (child : String × Node) (rest : Children Node) :
    walkAll (child :: rest) = child.2.walk child.1 ++ walkAll rest := rfl

@[simp] theorem walkAll_append (a b : Children Node) :
    walkAll (a ++ b) = walkAll a ++ walkAll b := by
  induction a with
  | nil => rfl
  | cons child rest ih => rw [List.cons_append, walkAll_cons, walkAll_cons, ih, List.append_assoc]

/-- A node comes before the walks of its children. -/
theorem walk_eq (name : String) (node : Node) :
    node.walk name = (name, node) :: walkAll node.children := by
  cases node with
  | nested kind f object =>
    rw [walk]
    exact congrArg _ (walkAll_append _ _).symm
  | _ => rfl

/-- The walk of a child is part of the walk of its siblings. -/
theorem walk_subset_walkAll {child : String × Node} {children : Children Node}
    (h : child ∈ children) : child.2.walk child.1 ⊆ walkAll children := by
  induction children with
  | nil => exact absurd h List.not_mem_nil
  | cons other rest ih =>
    rw [walkAll_cons]
    rcases List.mem_cons.mp h with rfl | h
    · exact List.subset_append_left _ _
    · exact List.subset_append_of_subset_right _ (ih h)

theorem mem_walkAll {children : Children Node} {c : String × Node} :
    c ∈ walkAll children ↔ ∃ child ∈ children, c ∈ child.2.walk child.1 := by
  constructor
  · intro h
    induction children with
    | nil => exact absurd h List.not_mem_nil
    | cons other rest ih =>
      rw [walkAll_cons, List.mem_append] at h
      rcases h with h | h
      · exact ⟨other, List.mem_cons_self, h⟩
      · obtain ⟨child, hchild, hc⟩ := ih h
        exact ⟨child, List.mem_cons_of_mem _ hchild, hc⟩
  · rintro ⟨child, hchild, hc⟩
    exact walk_subset_walkAll hchild hc

theorem size_le_sizes {child : String × Node} : ∀ {children : Children Node}, child ∈ children →
    child.2.size ≤ sizes children
  | other :: rest, h => by
    rw [sizes_cons]
    rcases List.mem_cons.mp h with rfl | h
    · omega
    · have hle : child.2.size ≤ sizes rest := size_le_sizes h
      omega

/-- A child is smaller than its node. -/
theorem size_lt_of_mem_children {child : String × Node} {node : Node} (h : child ∈ node.children) :
    child.2.size < node.size := by
  have hle := size_le_sizes h
  rw [node.size_eq]
  omega

/-- Children of visited nodes are visited. -/
theorem walk_closed {name : String} {node : Node} {parent child : String × Node}
    (hparent : parent ∈ node.walk name) (hchild : child ∈ parent.2.children) :
    child ∈ node.walk name := by
  rw [walk_eq, List.mem_cons] at hparent
  rcases hparent with rfl | hparent
  · rw [walk_eq]
    refine List.mem_cons_of_mem _ (walk_subset_walkAll hchild ?_)
    rw [walk_eq]
    exact List.mem_cons_self
  · obtain ⟨middle, hmiddle, hin⟩ := mem_walkAll.mp hparent
    have hsmaller : middle.2.size ≤ sizes node.children := size_le_sizes hmiddle
    have hsize := node.size_eq
    have hclosed := walk_closed hin hchild
    rw [walk_eq name node]
    exact List.mem_cons_of_mem _ (walk_subset_walkAll hmiddle hclosed)
termination_by node.size
decreasing_by omega

/-- **Visiting with a list of pending nodes** is folding over the nodes in preorder. -/
theorem visit_eq {β : Type} (f : β → String → Node → β) (acc : β) (pending : Children Node) :
    visit f acc pending = (walkAll pending).foldl (fun acc child => f acc child.1 child.2) acc := by
  fun_induction visit f acc pending with
  | case1 acc => rfl
  | case2 acc name node pending ih =>
    rw [ih, walkAll_append, walkAll_cons, walk_eq, List.cons_append, List.foldl_cons]

theorem preorder_eq (name : String) (node : Node) : node.preorder name = node.walk name := by
  have hpush : ∀ (children : Children Node) (acc : Array (String × Node)),
      (children.foldl (fun acc child => acc.push (child.1, child.2)) acc).toList =
        acc.toList ++ children := fun children => by
    induction children with
    | nil => exact fun acc => (List.append_nil _).symm
    | cons child rest ih =>
      intro acc
      rw [List.foldl_cons, ih, Array.toList_push, List.append_assoc]
      rfl
  rw [preorder, visit_eq, walkAll_cons, walkAll_nil, List.append_nil, hpush]
  rfl

end ProviderCode.Node
