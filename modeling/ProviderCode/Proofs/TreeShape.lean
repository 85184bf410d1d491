import ProviderCode.Proofs.EqualOutput

/-!
# Shapes of equal trees

Comparing two nodes goes all the way down.  Levels that look alike, with the same facets and the same name
for the child, are told apart by where they end.

Main statement: no node is equal to a node below it, and equal nodes have the same depth and the same
number of nodes below them.
-/

namespace ProviderCode

namespace Node

/-! ### Depth and descendants -/

mutual

/-- The number of levels of a tree. -/
def depth : Node → Nat
  | .scalar _ _ | .collection _ _ _ | .object _ _ => 1
  | .nested _ _ ⟨_, _, _, _, attributes, blocks⟩ => 1 + max (deepest attributes) (deepest blocks)
termination_by structural node => node

/-- The number of levels of the deepest one of several trees. -/
def deepest : Children Node → Nat
  | [] => 0
  | (_, node) :: rest => max node.depth (deepest rest)
termination_by structural children => children

end

/-- The second node is below the first one: a child of it, or below a child. -/
def Below : Node → Node → Prop := Relation.TransGen Owns

/-- The nodes below a node in preorder. -/
def descendants (node : Node) : Children Node := walkAll node.children

variable {node inner a b : Node}

theorem below_iff : node.Below inner ↔ ∃ child ∈ node.children, child.2.Reaches inner := by
  rw [Below, Relation.TransGen.head'_iff]
  constructor
  · rintro ⟨child, ⟨name, hchild⟩, hinner⟩
    exact ⟨(name, child), hchild, hinner⟩
  · rintro ⟨child, hchild, hinner⟩
    exact ⟨child.2, ⟨child.1, hchild⟩, hinner⟩

theorem mem_descendants_iff : (∃ key, (key, inner) ∈ node.descendants) ↔ node.Below inner := by
  simp only [descendants, mem_walkAll, below_iff]
  constructor
  · rintro ⟨key, child, hchild, hin⟩
    exact ⟨child, hchild, reaches_iff_mem_walk.mpr ⟨key, hin⟩⟩
  · rintro ⟨child, hchild, hinner⟩
    obtain ⟨key, hin⟩ := reaches_iff_mem_walk.mp hinner
    exact ⟨key, child, hchild, hin⟩

/-- A node below another one is smaller. -/
theorem Below.size_lt (h : node.Below inner) : inner.size < node.size := by
  induction h with
  | single howns =>
    obtain ⟨name, hchild⟩ := howns
    exact size_lt_of_mem_children hchild
  | tail _ howns ih =>
    obtain ⟨name, hchild⟩ := howns
    exact Nat.lt_trans (size_lt_of_mem_children hchild) ih

mutual

theorem length_walk (name : String) : ∀ node : Node, (node.walk name).length = node.size
  | .scalar _ _ | .collection _ _ _ | .object _ _ => rfl
  | .nested _ _ ⟨_, _, _, _, as, bs⟩ => by
    rw [walk, size, List.length_cons, List.length_append, length_walkAll as, length_walkAll bs]
    omega

theorem length_walkAll : ∀ children : Children Node, (walkAll children).length = sizes children
  | [] => rfl
  | (name, node) :: rest => by
    rw [walkAll, sizes, List.length_append, length_walk name node, length_walkAll rest]

end

/-! ### Equal trees -/

theorem Same.length_descendants (h : a.Same b) : a.descendants.length = b.descendants.length := by
  have hwalks := h.walk ""
  rw [walk_eq, walk_eq] at hwalks
  cases hwalks with
  | cons _ hrest => exact hrest.length_eq

theorem Same.size_eq (h : a.Same b) : a.size = b.size := by
  rw [← length_walk "" a, ← length_walk "" b]
  exact (h.walk "").length_eq

end Node

mutual

theorem Node.Same.depth_eq : ∀ {a b : Node}, a.Same b → a.depth = b.depth
  | .scalar _ _, b, h | .collection _ _ _, b, h | .object _ _, b, h => by
    cases b <;> simp only [Node.Same] at h
    rfl
  | .nested _ _ ⟨_, _, _, _, _, _⟩, b, h => by
    cases b <;> simp only [Node.Same] at h
    obtain ⟨-, -, -, -, -, -, has, hbs⟩ := h
    rw [Node.depth, Node.depth, SameChildren.deepest_eq has, SameChildren.deepest_eq hbs]

theorem SameChildren.deepest_eq : ∀ {as bs : Children Node}, SameChildren as bs →
    Node.deepest as = Node.deepest bs
  | [], bs, h => by
    cases bs <;> simp only [SameChildren] at h
    rfl
  | (_, _) :: _, bs, h => by
    cases bs <;> simp only [SameChildren] at h
    obtain ⟨-, hchild, hrest⟩ := h
    rw [Node.deepest, Node.deepest, hchild.depth_eq, SameChildren.deepest_eq hrest]

end

theorem Node.equal_eq_false_of_size_ne {a b : Node} (h : a.size ≠ b.size) : a.equal b = false := by
  rw [Bool.eq_false_iff, ne_eq, equal_iff]
  exact fun hsame => h hsame.size_eq

/-- **Equal trees have one shape.**  The descendants of a node are the nodes below it.  No node is equal to one
of them, and two nodes that are equal have the same depth and the same number of descendants. -/
theorem shape_of_equal :
    (∀ node inner : Node, (∃ key, (key, inner) ∈ node.descendants) ↔ node.Below inner) ∧
    (∀ node inner : Node, node.Below inner →
      node.equal inner = false ∧ inner.equal node = false) ∧
    ∀ a b : Node, a.equal b = true →
      a.depth = b.depth ∧ a.descendants.length = b.descendants.length := by
  refine ⟨fun _ _ => Node.mem_descendants_iff, fun node inner h => ?_, fun a b h => ?_⟩
  · have hlt := h.size_lt
    exact ⟨Node.equal_eq_false_of_size_ne (ne_of_gt hlt), Node.equal_eq_false_of_size_ne (ne_of_lt hlt)⟩
  · have hsame : a.Same b := Node.equal_iff.mp h
    exact ⟨hsame.depth_eq, hsame.length_descendants⟩

/-- Levels that all look alike, one inside the other, around an attribute whose default is `x`. -/
def alikeLevels (x : Float) : Nat → Node
  | 0 => defaultNode x
  | n + 1 =>
    .nested .singleAttribute { planModifiers := ⟨.object, []⟩, validators := ⟨.object, []⟩ }
      { attributes := [("level", alikeLevels x n)] }

theorem same_alikeLevels : ∀ n, (alikeLevels 0 n).Same (alikeLevels (-0) n)
  | 0 => ⟨rfl, by decide⟩
  | n + 1 => ⟨rfl, by decide, rfl, rfl, BEq.rfl, BEq.rfl, ⟨rfl, same_alikeLevels n, trivial⟩, trivial⟩

/-- One level more is another tree, and zeros of both signs at the end are the same one. -/
theorem shape_of_equal_alikeLevels :
    (alikeLevels 0 3).Below (alikeLevels 0 1) ∧
    (alikeLevels 0 3).equal (alikeLevels 0 1) = false ∧
    (alikeLevels 0 1).equal (alikeLevels 0 3) = false ∧
    (alikeLevels 0 3).equal (alikeLevels (-0) 3) = true ∧
    (alikeLevels (-0) 3).depth = 4 ∧ (alikeLevels (-0) 3).descendants.length = 3 := by
  obtain ⟨-, hbelow, hequal⟩ := shape_of_equal
  have howns : ∀ n, (alikeLevels 0 (n + 1)).Owns (alikeLevels 0 n) := fun n => ⟨"level", .head _⟩
  have hinner : (alikeLevels 0 3).Below (alikeLevels 0 1) := .tail (.single (howns 2)) (howns 1)
  have hsame : (alikeLevels 0 3).equal (alikeLevels (-0) 3) = true :=
    Node.equal_iff.mpr (same_alikeLevels 3)
  obtain ⟨hdepth, hlength⟩ := hequal _ _ hsame
  obtain ⟨hdown, hup⟩ := hbelow _ _ hinner
  exact ⟨hinner, hdown, hup, hsame, hdepth ▸ rfl, hlength ▸ rfl⟩

end ProviderCode
