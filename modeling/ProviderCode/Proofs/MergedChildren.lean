import ProviderCode.Proofs.StructFields

/-!
# Attributes and blocks together

Attributes and blocks are kept apart, and they are gone through together in two places: at the top of
a resource, where of two nodes with one name the block would count, and where the fields of an object
are listed, where the attribute counts.  Construction gives no two siblings one name, so at the top no
node is lost, and everything that is printed there has each node once.

Main statement: `each_child_once`.
-/

namespace ProviderCode

open List (Forall₂ Perm)

/-! ### The walk through the top of a resource -/

/-- The attributes and blocks of a schema are built to these nodes, each under its own name. -/
structure Schema.Builds (schema : Schema) (attributes blocks : Children Node) : Prop where
  attributes : Forall₂ Attribute.Builds schema.attributes attributes
  blocks : Forall₂ Block.Builds schema.blocks blocks

/-- The attributes, the blocks, and both together are in the order of their names, and of the nodes
that are built none is left out and none is there twice. -/
structure ResourceTree.WalksOnce (tree : ResourceTree) (attributes blocks : Children Node) :
    Prop where
  attributes_perm : Perm tree.attributes attributes
  attributes_increase : (Children.keys tree.attributes).Pairwise (· < ·)
  blocks_perm : Perm tree.blocks blocks
  blocks_increase : (Children.keys tree.blocks).Pairwise (· < ·)
  nodes_perm : Perm tree.nodes (attributes ++ blocks)
  nodes_increase : (Children.keys tree.nodes).Pairwise (· < ·)

/-- Siblings have different names, so the walk meets all that is declared. -/
theorem Resource.walksOnce {resource : Resource} {tree : ResourceTree}
    (h : resource.build = .ok tree) :
    ∃ schema attributes blocks, resource.schema = some schema ∧ schema.Builds attributes blocks ∧
      tree.WalksOnce attributes blocks := by
  obtain ⟨schema, object, hschema, hmade, has, hbs⟩ := Resource.madeOf_build h
  obtain ⟨attributes, hattributes, hbuiltas⟩ := hmade.attributes_perm
  obtain ⟨blocks, hblocks, hbuiltbs⟩ := hmade.blocks_perm
  have hnodes : Perm tree.nodes (object.attributes ++ object.blocks) := by
    rw [ResourceTree.nodes, has, hbs]
    exact Children.merge_perm hmade.distinct
  exact ⟨schema, attributes, blocks, hschema, ⟨hbuiltas, hbuiltbs⟩, {
    attributes_perm := has ▸ hattributes
    attributes_increase := has ▸ hmade.attributes_sorted
    blocks_perm := hbs ▸ hblocks
    blocks_increase := hbs ▸ hmade.blocks_sorted
    nodes_perm := hnodes.trans (hattributes.append hblocks)
    nodes_increase := Children.sorted_merge (has ▸ hmade.attributes_sorted) }⟩

/-! ### What the nodes at the top give -/

namespace ResourceTree

/-- The schemas of children one after the other, each as the node gives it under its name. -/
def printedSchemas (children : Children Node) : String :=
  eachField (fun child => child.2.schema child.1) children

/-- The schema of a resource in its sections: one with the schemas of the attributes, one with those of
the blocks if there are any, and what is said of the resource itself. -/
def printedSchema (tree : ResourceTree) : String :=
  tree.schemaOpening.text ++
    childrenText (printedSchemas tree.attributes) (!tree.blocks.isEmpty)
      (printedSchemas tree.blocks) ++
    (Clause.description tree.description).text ++ (Clause.deprecation tree.deprecation).text ++
    "\x7d\n\x7d\n"

theorem schema_eq_printed (tree : ResourceTree) : tree.schema = tree.printedSchema := by
  have hsection {opening : Source} {first : String} (hopening : opening.text = first)
      (children : Children Node) :
      (opening.enclose (childSchemas children) Clause.closing).text =
        first ++ printedSchemas children ++ "\x7d,\n" := by
    have hchildren : (childSchemas children).text = printedSchemas children :=
      text_flatMap_eq Source.text_nil Source.text_append _ children
    have hclosing : Clause.closing.text = "\x7d,\n" := rfl
    rw [Source.text_enclose, hopening, hchildren, hclosing]
  have hclauses : tree.attributesClause.text ++ tree.blocksClause.text =
      childrenText (printedSchemas tree.attributes) (!tree.blocks.isEmpty)
        (printedSchemas tree.blocks) := by
    have hattributes : Clause.attributesOpening.text =
        "Attributes: map[string]schema.Attribute\x7b\n" := rfl
    have hblocks : Clause.blocksOpening.text = "Blocks: map[string]schema.Block\x7b\n" := rfl
    unfold childrenText
    rw [attributesClause, hsection hattributes, blocksClause]
    cases tree.blocks.isEmpty with
    | false => exact congrArg (_ ++ ·) (hsection hblocks tree.blocks)
    | true => rfl
  have hclosing : Source.text [.fixed "\x7d\n\x7d\n"] = "\x7d\n\x7d\n" := rfl
  rw [schema, schemaSource, Source.text_enclose, Source.text_append, Source.text_append,
    Source.text_append, hclauses, hclosing, printedSchema]
  simp only [String.append_assoc]

theorem tags_modelFields (tree : ResourceTree) :
    tree.modelFields.map (·.tag) = Children.keys tree.nodes := by
  rw [modelFields, List.map_map]
  rfl

/-- All nodes have type pairs, and those of the resource are theirs in the order of the walk. -/
theorem exists_typePairs (tree : ResourceTree) :
    ∃ texts, tree.typePairs = .ok (String.join texts) ∧
      Forall₂ (fun child text => child.2.typePairs child.1 = .ok text) tree.nodes texts := by
  have hall : ∀ child ∈ tree.nodes, ∃ text, child.2.typePairs child.1 = .ok text :=
    fun child _ => ⟨_, child.2.typePairs_eq_join child.1⟩
  obtain ⟨texts, htexts⟩ := exists_forall₂_iff.mpr hall
  refine ⟨texts, ?_, htexts⟩
  rw [typePairs, mapM_eq_ok.mpr htexts]
  rfl

theorem adapters_eq_map (tree : ResourceTree) : tree.adapters =
    String.join <$> tree.nodes.mapM fun child => child.2.adapters child.1 :=
  bind_pure_comp _ _

/-- What a resource prints, from what its nodes give: the sections of a schema have the attributes and
the blocks apart, and all else follows the walk through both.  The first node on this walk that has an
error makes the adapters an error. -/
structure PrintsOnce (tree : ResourceTree) (attributes blocks : Children Node) : Prop where
  schema_eq : tree.schema = tree.printedSchema
  modelFields_perm :
    Perm tree.modelFields ((attributes ++ blocks).map fun child => child.2.modelField child.1)
  tags_increase : (tree.modelFields.map (·.tag)).Pairwise (· < ·)
  typePairs_ok : ∃ texts, tree.typePairs = .ok (String.join texts) ∧
    Forall₂ (fun child text => child.2.typePairs child.1 = .ok text) tree.nodes texts
  adapters_ok_iff : ∀ text, tree.adapters = .ok text ↔ ∃ texts,
    Forall₂ (fun child own => child.2.adapters child.1 = .ok own) tree.nodes texts ∧
      String.join texts = text
  adapters_error_iff : ∀ e, tree.adapters = .error e ↔
    ∃ before child after, tree.nodes = before ++ child :: after ∧
      (∀ other ∈ before, ∃ text, other.2.adapters other.1 = .ok text) ∧
      child.2.adapters child.1 = .error e
  mem_imports_iff : ∀ i, i ∈ tree.imports ↔ ∃ child ∈ tree.nodes, i ∈ child.2.imports

theorem WalksOnce.printsOnce {tree : ResourceTree} {attributes blocks : Children Node}
    (h : tree.WalksOnce attributes blocks) : tree.PrintsOnce attributes blocks where
  schema_eq := tree.schema_eq_printed
  modelFields_perm := h.nodes_perm.map _
  tags_increase := by
    rw [tags_modelFields]
    exact h.nodes_increase
  typePairs_ok := tree.exists_typePairs
  adapters_ok_iff text := by
    rw [adapters_eq_map, map_eq_ok]
    exact exists_congr fun texts => and_congr_left fun _ => mapM_eq_ok
  adapters_error_iff e := by
    rw [adapters_eq_map, map_eq_error]
    exact mapM_eq_error_iff
  mem_imports_iff i := by
    rw [imports, Imports.mem_foldl_union]
    exact or_iff_right Imports.not_mem_nothing

end ResourceTree

/-! ### The fields of an object -/

namespace NestedObject

/-- The fields of an object are in the order of their names, one for each name that an attribute or a
block has: that of the attribute, or that of the block if no attribute has the name. -/
structure FieldPerName (object : NestedObject Node) : Prop where
  names_increase : (object.fieldDescriptors.map (·.name)).Pairwise (· < ·)
  mem_names_iff : ∀ name, name ∈ object.fieldDescriptors.map (·.name) ↔
    name ∈ Children.keys object.attributes ∨ name ∈ Children.keys object.blocks
  mem_iff : ∀ field, field ∈ object.fieldDescriptors ↔
    ∃ child, field = child.2.fieldDescriptor child.1 ∧ (child ∈ object.attributes ∨
      child ∈ object.blocks ∧ child.1 ∉ Children.keys object.attributes)

theorem fieldPerName {object : NestedObject Node}
    (hattributes : (Children.keys object.attributes).Pairwise (· < ·))
    (hblocks : (Children.keys object.blocks).Pairwise (· < ·)) : object.FieldPerName where
  names_increase := by
    rw [names_fieldDescriptors]
    exact Children.sorted_merge ((keys_descriptors object.blocks).symm ▸ hblocks)
  mem_names_iff name := by
    rw [mem_names_fieldDescriptors, childNames, List.mem_append]
  mem_iff field := by
    have hnodup : (Children.keys object.attributes).Nodup := hattributes.imp String.ne_of_lt
    rw [← keys_descriptors] at hnodup hblocks
    rw [fieldDescriptors, Children.values, List.mem_map]
    simp only [Children.mem_merge_iff hnodup hblocks, keys_descriptors, List.mem_map]
    constructor
    · rintro ⟨_, ⟨child, hchild, rfl⟩ | ⟨⟨child, hchild, rfl⟩, hfree⟩, rfl⟩
      · exact ⟨child, rfl, .inl hchild⟩
      · exact ⟨child, rfl, .inr ⟨hchild, hfree⟩⟩
    · rintro ⟨child, rfl, hchild | ⟨hchild, hfree⟩⟩
      · exact ⟨_, .inl ⟨child, hchild, rfl⟩, rfl⟩
      · exact ⟨_, .inr ⟨⟨child, hchild, rfl⟩, hfree⟩, rfl⟩

end NestedObject

/-! ### The theorem -/

/-- **Each child once.**  At the top of every resource that is built each declared attribute and block
is met once, in the order of the names, and what is printed has it once; and every object whose
attributes and blocks are in the order of their names has one field for each name. -/
theorem each_child_once :
    (∀ (resource : Resource) (tree : ResourceTree), resource.build = .ok tree →
      ∃ schema attributes blocks, resource.schema = some schema ∧
        schema.Builds attributes blocks ∧ tree.WalksOnce attributes blocks ∧
        tree.PrintsOnce attributes blocks) ∧
    ∀ object : NestedObject Node, (Children.keys object.attributes).Pairwise (· < ·) →
      (Children.keys object.blocks).Pairwise (· < ·) → object.FieldPerName := by
  refine ⟨fun resource tree h => ?top, fun object => NestedObject.fieldPerName⟩
  case top =>
    obtain ⟨schema, attributes, blocks, hschema, hbuilds, hwalk⟩ := Resource.walksOnce h
    exact ⟨schema, attributes, blocks, hschema, hbuilds, hwalk, hwalk.printsOnce⟩

/-- Attributes that are declared against the order of their names, and a block between them. -/
def limitedSchema : Schema where
  attributes := [
    .mk "port" (.leaf (.int64 { mode := .optional })),
    .mk "host" (.leaf (.string { mode := .optional }))]
  blocks := [.mk "limits" (.single {} none [] [])]

def limitedResource : Resource := { name := "firewall", schema := some limitedSchema }

/-- An object with an attribute and a block of one name, which no construction makes. -/
def hidingObject : NestedObject Node where
  attributes := [("limits", .scalar .bool
    { planModifiers := ⟨.scalar .bool, []⟩, validators := ⟨.scalar .bool, []⟩ })]
  blocks := [("limits", pairNode), ("rules", pairNode)]

/-- The walk comes to the block between the attributes, and an attribute hides a block of its name. -/
theorem each_child_once_limitedResource :
    (∃ tree attributes blocks, limitedResource.build = .ok tree ∧
      limitedSchema.Builds attributes blocks ∧
      tree.WalksOnce attributes blocks ∧ tree.PrintsOnce attributes blocks ∧
      tree.modelFields.map (·.tag) = ["host", "limits", "port"]) ∧
    hidingObject.FieldPerName ∧
      hidingObject.fieldDescriptors.map (fun field => (field.name, field.valueType.text)) =
        [("limits", "basetypes.BoolValue"), ("rules", "basetypes.ListValue")] := by
  have hobject : NestedObject.build "firewall" limitedSchema.attributes limitedSchema.blocks = .ok _ :=
    (NestedObject.build_eq _ _ _).trans rfl
  obtain ⟨tree, hbuild, htags⟩ : ∃ tree, limitedResource.build = .ok tree ∧
      tree.modelFields.map (·.tag) = ["host", "limits", "port"] := by
    simp only [limitedResource, Resource.build, hobject]
    exact ⟨_, rfl, by decide⟩
  obtain ⟨_, attributes, blocks, hschema, hbuilds, hwalk, hprints⟩ := each_child_once.1 _ tree hbuild
  cases hschema
  exact ⟨⟨tree, attributes, blocks, hbuild, hbuilds, hwalk, hprints, htags⟩,
    each_child_once.2 hidingObject (by decide) (by decide), by decide⟩

end ProviderCode
