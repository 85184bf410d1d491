import ProviderCode.Proofs.BuiltNode
import ProviderCode.Proofs.NodeImports
import ProviderCode.Proofs.Qualifiers
import ProviderCode.Proofs.Results
import ProviderCode.Proofs.SchemaText

/-!
# Sources of schemas

The source of a schema is that of its parts, one after the other, with the schemas of the children in
the places of their parts.  So what a node uses, the schemas around it use as well, if all nodes are
printed; in trees that are built they are.
-/

namespace ProviderCode

/-! ### Parts -/

/-- The source of a part, with all nodes in it expanded. -/
def Part.chunks : Part → Source
  | .source s => s
  | .node name child => child.schemaSource name

namespace Node

theorem toList_expand (done : Array Chunk) : ∀ parts : List Part,
    (expand done parts).toList = done.toList ++ parts.flatMap Part.chunks
  | [] => by
    rw [expand, List.flatMap_nil, List.append_nil]
  | .source s :: parts => by
    rw [expand, toList_expand _ parts, List.flatMap_cons, Part.chunks, Array.toList_appendList,
      List.append_assoc]
  | .node name child :: parts => by
    have hsize := openNodes_schemaParts name child
    have hchild := child.size_eq
    have hsource : child.schemaSource name = (child.schemaParts name).flatMap Part.chunks := by
      rw [schemaSource, expand, toList_expand #[] (child.schemaParts name ++ []), List.append_nil]
      rfl
    rw [expand, toList_expand _ (child.schemaParts name ++ parts), List.flatMap_append,
      List.flatMap_cons, Part.chunks, hsource]
termination_by parts => (openNodes parts, parts.length)
decreasing_by
  · exact Prod.Lex.right _ (Nat.lt_succ_self _)
  · refine Prod.Lex.left _ _ ?_
    simp only [openNodes, openNodes_append]
    omega
  · refine Prod.Lex.left _ _ ?_
    simp only [openNodes, openNodes_append]
    omega

/-- **The source of a schema** is that of its parts. -/
theorem schemaSource_eq (name : String) (node : Node) :
    node.schemaSource name = (node.schemaParts name).flatMap Part.chunks := by
  rw [schemaSource, expand, toList_expand, List.append_nil]
  rfl

/-- A schema uses what one of its parts uses. -/
theorem uses_schemaSource {name : String} {node : Node} {part : Part} {p : Package}
    (hpart : part ∈ node.schemaParts name) (h : part.chunks.UsesInside p) :
    (node.schemaSource name).UsesInside p := by
  rw [schemaSource_eq]
  exact .flatMap Part.chunks hpart h

end Node

/-! ### Nodes that are built -/

/-- A node that is built for some attribute or block. -/
def Node.Built (node : Node) : Prop :=
  (∃ a : Attribute, a.build = .ok node) ∨ ∃ b : Block, b.build = .ok node

/-- The children that an object is made of are built. -/
theorem NestedObject.MadeOf.built {object : NestedObject Node} {attributes : List Attribute}
    {blocks : List Block} (h : object.MadeOf attributes blocks) {child : String × Node}
    (hchild : child ∈ object.children) : child.2.Built := by
  rcases List.mem_append.mp hchild with hchild | hchild
  · obtain ⟨as, hperm, hall⟩ := h.attributes_perm
    obtain ⟨a, -, hbuilds⟩ := exists_partner hall (hperm.mem_iff.mp hchild)
    exact .inl ⟨a, hbuilds.2⟩
  · obtain ⟨bs, hperm, hall⟩ := h.blocks_perm
    obtain ⟨b, -, hbuilds⟩ := exists_partner hall (hperm.mem_iff.mp hchild)
    exact .inr ⟨b, hbuilds.2⟩

namespace Node.Built

variable {node : Node}

theorem child (h : node.Built) {child : String × Node} (hchild : child ∈ node.children) :
    child.2.Built := by
  obtain ⟨object, hobject⟩ : ∃ object, node.object? = some object := by
    cases hobject : node.object? with
    | some object => exact ⟨object, rfl⟩
    | none =>
      rw [Node.children, hobject] at hchild
      exact absurd hchild List.not_mem_nil
  rw [Node.children_eq hobject] at hchild
  rcases h with ⟨a, ha⟩ | ⟨b, hb⟩
  · exact ((a.builtFor_build ha).object_madeOf object hobject).built hchild
  · exact ((b.builtFor_build hb).object_madeOf object hobject).built hchild

/-- **All nodes below a node that is built are built.** -/
theorem reaches (h : node.Built) {inner : Node} (hinner : node.Reaches inner) : inner.Built := by
  induction hinner with
  | refl => exact h
  | tail _ hchild ih =>
    obtain ⟨name, hchild⟩ := hchild
    exact ih.child hchild

/-- Only blocks have blocks, so all children are printed. -/
theorem no_blocks (h : node.Built) (hkind : node.kind.isBlock = false) {object : NestedObject Node}
    (hobject : node.object? = some object) : object.blocks = [] := by
  rcases h with ⟨a, ha⟩ | ⟨b, hb⟩
  · exact (a.holds_of_build ha).no_blocks hkind object hobject
  · exact (b.holds_of_build hb).no_blocks hkind object hobject

/-- The object of a single node has no validators and plan modifiers; they are those of the node. -/
theorem no_lists (h : node.Built) (hkind : node.kind.isSingle = true) {object : NestedObject Node}
    (hobject : node.object? = some object) :
    object.planModifiers.definitions = [] ∧ object.validators.definitions = [] := by
  rcases h with ⟨a, ha⟩ | ⟨b, hb⟩
  · rw [a.build_eq] at ha
    obtain ⟨name, leaf | ⟨shape, f, _ | ⟨o, attributes⟩⟩ | ⟨f, external, attributes⟩⟩ := a
    · obtain ⟨-, -, hnone⟩ := Leaf.build_ok ha
      cases hnone.symm.trans hobject
    · cases ha
    · obtain ⟨children, -, hnode⟩ := bind_eq_ok.mp ha
      cases hnode
      cases hkind
    · obtain ⟨children, -, hnode⟩ := bind_eq_ok.mp ha
      cases hnode
      cases hobject
      exact ⟨rfl, rfl⟩
  · rw [b.build_eq] at hb
    obtain ⟨name, ⟨shape, f, _ | ⟨o, attributes, blocks⟩⟩ | ⟨f, external, attributes, blocks⟩⟩ := b
    · cases hb
    · obtain ⟨as, -, hb⟩ := bind_eq_ok.mp hb
      obtain ⟨bs, -, hnode⟩ := bind_eq_ok.mp hb
      cases hnode
      cases hkind
    · obtain ⟨as, -, hb⟩ := bind_eq_ok.mp hb
      obtain ⟨bs, -, hnode⟩ := bind_eq_ok.mp hb
      cases hnode
      cases hobject
      exact ⟨rfl, rfl⟩

/-- A child of a node that is built is a part of its schema. -/
theorem child_mem_schemaParts (h : node.Built) {child : String × Node}
    (hchild : child ∈ node.children) (name : String) :
    Part.node child.1 child.2 ∈ node.schemaParts name := by
  cases node with
  | nested kind f object =>
    rcases List.mem_append.mp hchild with hchild | hchild
    · exact Node.mem_schemaParts (NestedObject.mem_childParts_attribute hchild _) name f
    · have hblock : kind.isBlock = true := by
        by_contra hnot
        rw [h.no_blocks (Bool.not_eq_true _ ▸ hnot) rfl] at hchild
        exact absurd hchild List.not_mem_nil
      refine Node.mem_schemaParts ?_ name f
      rw [hblock]
      exact NestedObject.mem_childParts_block hchild
  | _ => exact absurd hchild List.not_mem_nil

/-- **The schema of a node that is built** uses what the schemas of the nodes below it use. -/
theorem uses_schemaSource (h : node.Built) {inner : Node} {p : Package}
    (hinner : node.Reaches inner) (huses : ∀ key, (inner.schemaSource key).UsesInside p) :
    ∀ name, (node.schemaSource name).UsesInside p := by
  induction hinner using Relation.ReflTransGen.head_induction_on with
  | refl => exact huses
  | head hchild _ ih =>
    intro name
    obtain ⟨key, hchild⟩ := hchild
    exact Node.uses_schemaSource (h.child_mem_schemaParts hchild name) (ih (h.child hchild) key)

end Node.Built

end ProviderCode
