import ProviderCode.Proofs.DeclarationOrder
import ProviderCode.Proofs.EqualOutput
import ProviderCode.Proofs.SchemaSources
import ProviderCode.Proofs.TypeOrder

/-!
# Nodes with attribute types in another order

A collection is built from the type of its elements, and an object attribute from the types of its
attributes.  The order of attribute types does not show in what these nodes generate.  But it is not
everywhere the same to equality: an object attribute puts its own types in the order of their names, and
the objects inside a type keep theirs in the order in which they are given.

Main statement: attributes that differ only in the order of attribute types can be built, their nodes
generate the same, and these are equal if and only if the order is another one in the list of an object
attribute itself alone.
-/

namespace ProviderCode

/-! ### Equal lists after sorting -/

namespace ElementType

/-- Types side by side under the same names, as one list. -/
theorem EachReordered.exists_sides {as bs : List (String × ElementType)} (h : EachReordered as bs) :
    ∃ sides : List (String × ElementType × ElementType),
      as = sides.map (fun side => (side.1, side.2.1)) ∧
        bs = sides.map fun side => (side.1, side.2.2) := by
  induction as generalizing bs with
  | nil =>
    cases h
    exact ⟨[], rfl, rfl⟩
  | cons named as ih =>
    obtain ⟨type', rest', -, hrest, rfl⟩ := h
    obtain ⟨sides, rfl, rfl⟩ := ih hrest
    exact ⟨(named.1, named.2, type') :: sides, rfl, rfl⟩

/-- Sorting puts both sides in the same places, so it does not hide a difference. -/
theorem EachReordered.eq_of_byName_eq {as bs : List (String × ElementType)} (h : EachReordered as bs)
    (heq : byName as = byName bs) : as = bs := by
  obtain ⟨sides, rfl, rfl⟩ := h.exists_sides
  rw [byName_map (fun side : ElementType × ElementType => side.1),
    byName_map (fun side : ElementType × ElementType => side.2), List.map_inj_left] at heq
  exact List.map_inj_left.mpr fun side hside => heq side (mem_byName.mpr hside)

/-- Sorted lists are equal if only the entries are in another order, and not something in them. -/
theorem ListReordered.byName_eq_iff {as bs : List (String × ElementType)} (h : ListReordered as bs) :
    byName as = byName bs ↔ Rearranged as bs := by
  refine ⟨fun heq => ?_, Rearranged.byName_eq⟩
  obtain ⟨mid, heach, horder⟩ := h
  obtain rfl : as = mid := heach.eq_of_byName_eq (heq.trans horder.byName_eq.symm)
  exact horder

end ElementType

/-! ### Attributes -/

namespace Leaf

/-- Collections and object attributes that differ only in the order of attribute types, in the
attribute itself or at any depth of its types. -/
inductive Reordered : Leaf → Leaf → Prop
  | collection (shape : Shape) (f : AttributeFacets Empty) {element element' : ElementType}
      (h : element.Reordered element') :
      Reordered (.collection shape f (some element)) (.collection shape f (some element'))
  | object (f : AttributeFacets Empty) {types types' : List (String × ElementType)}
      (h : ElementType.ListReordered types types') :
      Reordered (.object f (some types)) (.object f (some types'))

/-- Those of them that differ in the list of an object attribute itself alone. -/
inductive Rearranged : Leaf → Leaf → Prop
  | collection (shape : Shape) (f : AttributeFacets Empty) (element : ElementType) :
      Rearranged (.collection shape f (some element)) (.collection shape f (some element))
  | object (f : AttributeFacets Empty) {types types' : List (String × ElementType)}
      (h : ElementType.Rearranged types types') :
      Rearranged (.object f (some types)) (.object f (some types'))

end Leaf

/-! ### Nodes without children -/

namespace Node

variable {a b : Node}

/-- A node without children has no imports but its own. -/
theorem imports_of_leaf {node : Node} (h : node.object? = none) : node.imports = ∅ ∪ node.ownImports := by
  rw [imports, visit, children, h, List.nil_append, visit]

/-- Nodes without children that are made of the same parts and have imports of their own that are the
same generate the same. -/
theorem sameOutput_of_leaf (ha : a.object? = none) (hb : b.object? = none) (hkind : a.kind = b.kind)
    (hcustom : a.customType = b.customType) (hparts : ∀ name, a.schemaParts name = b.schemaParts name)
    (himports : a.ownImports = b.ownImports) : a.SameOutput b where
  schema_eq name := by
    rw [schema, schema, schemaSource_eq, schemaSource_eq, hparts name]
  modelField_eq name := by rw [modelField, modelField, hcustom, hkind]
  typePairs_eq name := by
    have hnested : ∀ {node : Node}, node.object? = none → node.isNested = false :=
      fun h => congrArg Option.isSome h
    rw [typePairs_eq_ownPairs, typePairs_eq_ownPairs, ownPairs_walk_leaf (hnested ha),
      ownPairs_walk_leaf (hnested hb)]
  adapters_eq name := by
    have hbound : ∀ {node : Node}, node.object? = none → node.isBound = false := fun h => by
      rw [isBound, h]
    rw [adapters_of_unbound (hbound ha), adapters_of_unbound (hbound hb)]
  imports_eq := by rw [imports_of_leaf ha, imports_of_leaf hb, himports]

/-- What a node generates, and what it is inside the code of its parent, is the same. -/
structure Interchanged (a b : Node) : Prop extends a.SameOutput b where
  fieldDescriptor_eq : ∀ name, a.fieldDescriptor name = b.fieldDescriptor name
  conversion_eq : ∀ name, a.conversion name = b.conversion name

/-- **Collections** of elements that differ in the order of attribute types. -/
theorem interchanged_collection (shape : Shape) (f : NodeFacets) {element element' : ElementType}
    (h : element.Reordered element') :
    (collection shape f element).Interchanged (.collection shape f element') where
  toSameOutput := by
    refine sameOutput_of_leaf rfl rfl rfl rfl (fun name => ?_) ?_
    · simp only [schemaParts, contentParts, Clause.elementType, h.expression_eq]
      rfl
    · simp only [ownImports, valueImports, h.imports_eq]
      rfl
  fieldDescriptor_eq name := by
    simp only [fieldDescriptor, basetype, fieldCollection?, h.expression_eq]
    rfl
  conversion_eq _ := rfl

/-- **Object attributes** whose types differ in their order. -/
theorem interchanged_object (f : NodeFacets) {types types' : List (String × ElementType)}
    (h : ElementType.ListReordered types types') :
    (object f (ElementType.byName types)).Interchanged (.object f (ElementType.byName types')) where
  toSameOutput := by
    refine sameOutput_of_leaf rfl rfl rfl rfl (fun name => ?_) ?_
    · simp only [schemaParts, contentParts, Clause.attributeTypes, h.expression_eq]
      rfl
    · simp only [ownImports, valueImports, h.imports_eq]
      rfl
  fieldDescriptor_eq name := by
    simp only [fieldDescriptor, basetype, h.expression_eq]
    rfl
  conversion_eq _ := rfl

end Node

/-! ### The theorem -/

/-- Attributes without literals have no default that is not a number. -/
theorem NodeFacets.beq_ofAttribute (kind : NodeKind) (f : AttributeFacets Empty) :
    (NodeFacets.ofAttribute kind Empty.elim f == NodeFacets.ofAttribute kind Empty.elim f) = true := by
  refine NodeFacets.beq_self_iff.mpr fun d hd => ?_
  obtain ⟨given, -, hchoose⟩ := Option.bind_eq_some_iff.mp hd
  rw [Default.choose] at hchoose
  cases hliteral : given.literal with
  | some literal => exact literal.elim
  | none =>
    rw [hliteral] at hchoose
    obtain ⟨definition, -, rfl⟩ := Option.map_eq_some_iff.mp hchoose
    trivial

namespace Leaf

/-- Collections have no list of their own. -/
theorem rearranged_collection {shape : Shape} {f : AttributeFacets Empty} {element element' : ElementType}
    (h : Rearranged (.collection shape f (some element)) (.collection shape f (some element'))) :
    element = element' := by
  cases h
  rfl

end Leaf

/-- **Attribute types in another order.**  Collections and object attributes that differ only in the order
of attribute types with different names, at any depth, can be built.  Their nodes have the same schema,
imports, type pairs, adapters, fields and conversions.  They are equal if and only if the order is
another one in the list of an object attribute itself at most: inside of types it counts. -/
theorem types_in_another_order {l l' : Leaf} (h : l.Reordered l') (name : String) :
    ∃ node node', (Attribute.mk name (.leaf l)).build = .ok node ∧
      (Attribute.mk name (.leaf l')).build = .ok node' ∧ node.Interchanged node' ∧
      (node.equal node' = true ↔ l.Rearranged l') := by
  cases h with
  | @collection shape f element element' htypes =>
    refine ⟨_, _, rfl, rfl, Node.interchanged_collection shape _ htypes, ?_⟩
    rw [Node.equal_iff, Node.Same]
    constructor
    · rintro ⟨-, -, rfl⟩
      exact .collection shape f element
    · exact fun h => ⟨rfl, NodeFacets.beq_ofAttribute _ f, Leaf.rearranged_collection h⟩
  | @object f types types' htypes =>
    refine ⟨_, _, rfl, rfl, Node.interchanged_object _ htypes, ?_⟩
    rw [Node.equal_iff, Node.Same, htypes.byName_eq_iff]
    constructor
    · rintro ⟨-, horder⟩
      exact .object f horder
    · rintro (_ | ⟨_, horder⟩)
      exact ⟨NodeFacets.beq_ofAttribute _ f, horder⟩

/-- The types of two attributes. -/
def portAndHost : List (String × ElementType) :=
  [("port", .scalar .int64 none), ("host", .scalar .string none)]

theorem rearranged_portAndHost : ElementType.Rearranged portAndHost portAndHost.reverse :=
  .inr ⟨by decide, (List.reverse_perm _).symm⟩

/-- The list of an object attribute is put in order. -/
theorem types_in_another_order_portAndHost :
    ∃ node node',
      (Attribute.mk "end" (.leaf (.object { mode := .optional } (some portAndHost)))).build = .ok node ∧
      (Attribute.mk "end" (.leaf (.object { mode := .optional }
        (some portAndHost.reverse)))).build = .ok node' ∧
      node.schema "end" = node'.schema "end" ∧ node.equal node' = true := by
  obtain ⟨node, node', hbuild, hbuild', hsame, hequal⟩ :=
    types_in_another_order (.object { mode := .optional } ⟨_, .refl _, rearranged_portAndHost⟩) "end"
  exact ⟨node, node', hbuild, hbuild', hsame.schema_eq _,
    hequal.mpr (.object _ rearranged_portAndHost)⟩

/-- A list of objects with attributes of these types. -/
def rulesAttribute (types : List (String × ElementType)) : Attribute :=
  .mk "rules" (.leaf (.collection .list { mode := .optional } (some (.object none types))))

/-- The list of the objects in a list is not: the nodes of the two orders generate the same and are not
equal. -/
theorem element_order_compared :
    ElementType.Rearranged portAndHost portAndHost.reverse ∧
    ∃ node node', (rulesAttribute portAndHost).build = .ok node ∧
      (rulesAttribute portAndHost.reverse).build = .ok node' ∧ node.Interchanged node' ∧
      node.equal node' = false := by
  have htypes : (ElementType.object none portAndHost).Reordered (.object none portAndHost.reverse) :=
    ⟨_, _, .refl _, rearranged_portAndHost, rfl⟩
  refine ⟨rearranged_portAndHost, _, _, rfl, rfl, Node.interchanged_collection .list _ htypes, ?_⟩
  rw [← Bool.not_eq_true, Node.equal_iff, Node.Same]
  rintro ⟨-, -, htypes⟩
  simp [portAndHost] at htypes

end ProviderCode
