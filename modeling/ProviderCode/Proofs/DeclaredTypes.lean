import Mathlib.Data.List.Flatten
import Mathlib.Data.List.Nodup
import ProviderCode.Proofs.PrintedTypes
import ProviderCode.Proofs.UsedPackages

/-!
# Types that a file declares

All objects of a resource's tree declare their types in one file, each under its own name in Pascal
case.  Names differ within an object, but objects in different places may have one name, and different
names may be one in Pascal case.

Main statements:

* `ResourceTree.typePairs_eq_join`: the type pairs of a file are those of its objects, one each.
* `ResourceTree.declaredTypes_nodup_iff`: no type is declared twice if and only if the objects' names stay
  different in Pascal case.
-/

namespace ProviderCode

/-! ### Type pairs -/

/-- The text of the pair that is made for an object under a name. -/
def pairText (owner : String × NestedObject Node) : String :=
  TypeText.print (Name.pascal owner.1) (owner.2.fieldDescriptors.map FieldDescriptor.texts) ++
    ValueText.print (Name.pascal owner.1) (owner.2.fieldDescriptors.map FieldDescriptor.texts)

theorem join_flatMap {α : Type} (f : α → List String) (as : List α) :
    String.join (as.flatMap f) = String.join (as.map fun a => String.join (f a)) := by
  induction as with
  | nil => rfl
  | cons a as ih => rw [List.flatMap_cons, String.join_append, List.map_cons, String.join_cons, ih]

/-- The type pairs of a node are those of the owners in its tree. -/
theorem Node.typePairs_eq_join (name : String) (node : Node) :
    node.typePairs name = .ok (String.join ((typeOwners (node.walk name)).map pairText)) := by
  obtain ⟨texts, htexts, hall⟩ := node.typePairs_ok name
  have hpairs : texts = (typeOwners (node.walk name)).map pairText := by
    refine (List.forall₂_eq_eq_eq ▸ List.forall₂_map_left_iff.mpr (hall.imp ?_)).symm
    rintro ⟨key, object⟩ text ⟨htext, -⟩
    exact Except.ok.inj ((object.typePair_eq_print key).symm.trans htext)
  rw [htexts, hpairs]

namespace ResourceTree

/-- The objects in a tree that a pair of types is made for, each with the name of its node. -/
def owners (tree : ResourceTree) : List (String × NestedObject Node) :=
  typeOwners (Node.walkAll tree.nodes)

theorem typeOwners_walkAll (nodes : Children Node) :
    typeOwners (Node.walkAll nodes) = nodes.flatMap fun child => typeOwners (child.2.walk child.1) := by
  induction nodes with
  | nil => rfl
  | cons child rest ih => rw [Node.walkAll_cons, typeOwners_append, ih, List.flatMap_cons]

/-- The type pairs of a file are those of the owners in its tree. -/
theorem typePairs_eq_join (tree : ResourceTree) :
    tree.typePairs = .ok (String.join (tree.owners.map pairText)) := by
  have hall : tree.nodes.mapM (fun child => child.2.typePairs child.1) =
      .ok (tree.nodes.map fun child =>
        String.join ((typeOwners (child.2.walk child.1)).map pairText)) := by
    rw [mapM_eq_ok, List.forall₂_map_right_iff, List.forall₂_same]
    exact fun child _ => child.2.typePairs_eq_join child.1
  rw [typePairs, hall, owners, typeOwners_walkAll, List.map_flatMap, join_flatMap]
  rfl

end ResourceTree

/-! ### Names -/

/-- The types that are declared for a name in Pascal case: that of the object and that of its
values. -/
def pairTypes (name : String) : List String := [name ++ "Type", name ++ "Value"]

/-- The types that the file of a tree declares: the model, and a pair for each owner. -/
def ResourceTree.declaredTypes (tree : ResourceTree) : List String :=
  (Name.pascal tree.name ++ "Model") :: tree.owners.flatMap fun owner => pairTypes (Name.pascal owner.1)

theorem type_ne_value (a b : String) : a ++ "Type" ≠ b ++ "Value" := fun h => by
  have hends := congrArg (fun text => text.toList.reverse) h
  simp at hends

theorem model_ne_type (a b : String) : a ++ "Model" ≠ b ++ "Type" := fun h => by
  have hends := congrArg (fun text => text.toList.reverse) h
  simp at hends

theorem model_ne_value (a b : String) : a ++ "Model" ≠ b ++ "Value" := fun h => by
  have hends := congrArg (fun text => text.toList.reverse) h
  simp at hends

/-- Two names declare different types exactly if they are different. -/
theorem pairTypes_disjoint {a b : String} : (pairTypes a).Disjoint (pairTypes b) ↔ a ≠ b := by
  constructor
  · rintro hdisjoint rfl
    exact hdisjoint List.mem_cons_self List.mem_cons_self
  · intro hne name ha hb
    simp only [pairTypes, List.mem_cons, List.not_mem_nil, or_false] at ha hb
    rcases ha with rfl | rfl <;> rcases hb with hb | hb
    · exact hne (by simpa using hb)
    · exact type_ne_value a b hb
    · exact type_ne_value b a hb.symm
    · exact hne (by simpa using hb)

theorem pairTypes_nodup (name : String) : (pairTypes name).Nodup :=
  List.nodup_cons.mpr ⟨by simp, List.nodup_singleton _⟩

namespace ResourceTree

/-- No type is declared twice exactly if the names of the owners stay different in Pascal case. -/
theorem declaredTypes_nodup_iff (tree : ResourceTree) :
    tree.declaredTypes.Nodup ↔ (tree.owners.map fun owner => Name.pascal owner.1).Nodup := by
  have hmodel : Name.pascal tree.name ++ "Model" ∉
      tree.owners.flatMap fun owner => pairTypes (Name.pascal owner.1) := by
    intro hmem
    obtain ⟨owner, -, hname⟩ := List.mem_flatMap.mp hmem
    simp only [pairTypes, List.mem_cons, List.not_mem_nil, or_false] at hname
    rcases hname with hname | hname
    · exact model_ne_type _ _ hname
    · exact model_ne_value _ _ hname
  rw [declaredTypes, List.nodup_cons, and_iff_right hmodel, List.nodup_flatMap,
    and_iff_right fun owner _ => pairTypes_nodup _, List.Nodup, List.pairwise_map]
  exact List.Pairwise.iff fun _ _ => pairTypes_disjoint

end ResourceTree

/-! ### Siblings -/

/-- The names of attributes and blocks side by side. -/
def SiblingsDiffer (attributes blocks : Children Node) : Prop :=
  (attributes.keys ++ blocks.keys).Nodup

theorem Reflects.siblingsDiffer {attributes blocks : Children Node} {as : List Attribute}
    {bs : List Block} (h : Reflects attributes blocks as bs) : SiblingsDiffer attributes blocks :=
  List.nodup_append.mpr ⟨h.attributes_sorted.imp fun hlt => String.ne_of_lt hlt,
    h.blocks_sorted.imp fun hlt => String.ne_of_lt hlt,
    fun a ha _ hb heq => h.disjoint a ha (heq ▸ hb)⟩

/-- What holds of every node that holds what is declared for it holds throughout the tree of an
attribute. -/
theorem Attribute.Represented.forall_walk {P : Node → Prop}
    (hP : ∀ {node kind as bs}, Node.Holds node kind as bs → P node) {a : Attribute} {node : Node}
    (h : a.Represented node) : ∀ {name : String}, ∀ c ∈ node.walk name, P c.2 := by
  induction h with
  | @intro a node holds attributes ih =>
    intro name
    refine Node.forall_walk (hP holds) fun child hchild => ?_
    cases hobject : node.object? with
    | none =>
      rw [Node.children, hobject] at hchild
      exact absurd hchild List.not_mem_nil
    | some object =>
      have hkind : node.kind.isBlock = false := holds.kind_eq ▸ a.isBlock_kind
      rw [Node.children_eq hobject, NestedObject.children, holds.no_blocks hkind object hobject,
        List.append_nil] at hchild
      obtain ⟨_, -, hall⟩ :=
        (holds.object_reflects object hobject).exists_attribute (ih object hobject) hchild
      exact hall

theorem Block.Represented.forall_walk {P : Node → Prop}
    (hP : ∀ {node kind as bs}, Node.Holds node kind as bs → P node) {block : Block} {node : Node}
    (h : block.Represented node) : ∀ {name : String}, ∀ c ∈ node.walk name, P c.2 := by
  induction h with
  | @intro _ node holds attributes blocks ih =>
    intro name
    refine Node.forall_walk (hP holds) fun child hchild => ?_
    cases hobject : node.object? with
    | none =>
      rw [Node.children, hobject] at hchild
      exact absurd hchild List.not_mem_nil
    | some object =>
      rw [Node.children_eq hobject] at hchild
      have hreflects := holds.object_reflects object hobject
      rcases List.mem_append.mp hchild with hchild | hchild
      · obtain ⟨_, -, hrepresented⟩ :=
          hreflects.exists_attribute (attributes object hobject) hchild
        exact hrepresented.forall_walk hP
      · obtain ⟨_, -, hall⟩ := hreflects.exists_block (ih object hobject) hchild
        exact hall

namespace ResourceTree

/-- Names differ at the top of a tree and in each object of it. -/
theorem Represents.siblingsDiffer {tree : ResourceTree} {schema : Schema}
    (h : tree.Represents schema) : SiblingsDiffer tree.attributes tree.blocks ∧
      ∀ node ∈ Node.walkAll tree.nodes, ∀ object, node.2.object? = some object →
        SiblingsDiffer object.attributes object.blocks := by
  refine ⟨h.reflects.siblingsDiffer, fun node hnode object hobject => ?_⟩
  have hP : ∀ {node kind as bs}, Node.Holds node kind as bs → ∀ object, node.object? = some object →
      SiblingsDiffer object.attributes object.blocks := fun holds object hobject =>
    (holds.object_reflects object hobject).siblingsDiffer
  obtain ⟨child, hchild, hin⟩ := Node.mem_walkAll.mp hnode
  rcases h.mem_nodes.mp hchild with hchild | hchild
  · obtain ⟨_, -, hrepresented⟩ := h.reflects.exists_attribute h.attributes hchild
    exact hrepresented.forall_walk hP _ hin object hobject
  · obtain ⟨_, -, hrepresented⟩ := h.reflects.exists_block h.blocks hchild
    exact hrepresented.forall_walk hP _ hin object hobject

end ResourceTree

end ProviderCode
