import ProviderCode.Proofs.BuiltNode
import ProviderCode.Proofs.TemplatePackages
import ProviderCode.Resource.File

/-!
# Packages that files use

A generated file has four sections: the function that returns the schema, the model, the type pairs
and the adapters.  Its imports are those of the nodes and those that the sections bring.

Main statement: the generator uses a package in what it writes only if the file imports it.
-/

namespace ProviderCode

/-! ### Files -/

namespace ResourceTree

/-- The sections of a file in order: schema, model, type pairs and adapters. -/
def sections (tree : ResourceTree) : List Source :=
  [tree.schemaSource, tree.modelSource, tree.typePairsSource, tree.adaptersSource]

/-- A file with the sections of a tree and the imports for them. -/
structure Makes (tree : ResourceTree) (options : FileOptions) (file : GeneratedFile) : Prop where
  schema_eq : file.schema = tree.schemaSource.text
  modelFields_eq : file.modelFields = tree.modelFields
  typePairs_eq : file.typePairs = tree.typePairsSource.text
  adapters_ok : tree.adapters = .ok file.adapters
  adapters_eq : file.adapters = tree.adaptersSource.text
  imports_eq : file.imports = GeneratedFile.allImports tree file.typePairs file.adapters
  content_eq : file.content = GeneratedFile.header ++ "\npackage " ++ options.packageName ++ "\n\n" ++
    file.imports.declaration ++ String.join (tree.sections.map fun s => GeneratedFile.section? s.text)

theorem makes_of_generate {tree : ResourceTree} {options : FileOptions} {file : GeneratedFile}
    (h : tree.generate options = .ok file) : tree.Makes options file := by
  obtain ⟨pairs, hpairs, h⟩ := bind_eq_ok.mp h
  obtain ⟨adapters, hadapters, h⟩ := bind_eq_ok.mp h
  obtain rfl : tree.typePairsSource.text = pairs := Except.ok.inj (tree.typePairs_eq.symm.trans hpairs)
  obtain rfl : adapters = tree.adaptersSource.text := adapters_text hadapters
  have hfile := Except.ok.inj h
  have hschema : file.schema = tree.schema := by rw [← hfile]
  have hcontent : file.content = GeneratedFile.header ++ "\npackage " ++ options.packageName ++ "\n\n" ++
      file.imports.declaration ++ String.join ([tree.schema, tree.model, tree.typePairsSource.text,
        tree.adaptersSource.text].map GeneratedFile.section?) := by
    rw [← hfile]
  exact {
    schema_eq := hschema
    modelFields_eq := by rw [← hfile]
    typePairs_eq := by rw [← hfile]
    adapters_ok := by rw [← hfile, hadapters]
    adapters_eq := by rw [← hfile]
    imports_eq := by rw [← hfile]
    content_eq := hcontent }

/-- A file is generated if there are adapters for all bound nodes. -/
theorem exists_generate {tree : ResourceTree} {text : String} (h : tree.adapters = .ok text)
    (options : FileOptions) : ∃ file, tree.generate options = .ok file := by
  rw [generate, typePairs_eq, h]
  exact ⟨_, rfl⟩

/-- Without a bound node at the top there are no adapters, whatever is bound below. -/
theorem adapters_of_unbound {tree : ResourceTree} (h : ∀ child ∈ tree.nodes, child.2.isBound = false) :
    tree.adapters = .ok "" := by
  have hall : tree.nodes.mapM (fun child => child.2.adapters child.1) =
      .ok (tree.nodes.map fun _ => "") := by
    rw [mapM_eq_ok, List.forall₂_map_right_iff, List.forall₂_same]
    exact fun child hchild => Node.adapters_of_unbound (h child hchild)
  have hjoin (children : Children Node) : String.join (children.map fun _ => "") = "" := by
    induction children with
    | nil => rfl
    | cons child children ih => rw [List.map_cons, String.join_cons, ih, String.append_empty]
  rw [adapters, hall]
  exact congrArg Except.ok (hjoin tree.nodes)

/-- So a file is generated, with no adapters in it. -/
theorem exists_generate_of_unbound {tree : ResourceTree} (options : FileOptions)
    (h : ∀ child ∈ tree.nodes, child.2.isBound = false) :
    ∃ file, tree.generate options = .ok file ∧ tree.Makes options file ∧ file.adapters = "" := by
  obtain ⟨file, hfile⟩ := exists_generate (adapters_of_unbound h) options
  have hmakes := makes_of_generate hfile
  exact ⟨file, hfile, hmakes, Except.ok.inj (hmakes.adapters_ok.symm.trans (adapters_of_unbound h))⟩

/-- The nodes of a tree: the attributes, the blocks, and all nodes below them. -/
def Reaches (tree : ResourceTree) (node : Node) : Prop := ∃ child ∈ tree.nodes, child.2.Reaches node

/-- No attribute hides a block of its name. -/
theorem Represents.mem_nodes {tree : ResourceTree} {schema : Schema} (h : tree.Represents schema)
    {child : String × Node} : child ∈ tree.nodes ↔ child ∈ tree.attributes ∨ child ∈ tree.blocks := by
  have hnodup : (tree.attributes.keys ++ tree.blocks.keys).Nodup :=
    List.nodup_append.mpr ⟨h.reflects.attributes_sorted.imp fun hlt => String.ne_of_lt hlt,
      h.reflects.blocks_sorted.imp fun hlt => String.ne_of_lt hlt,
      fun a ha b hb heq => h.reflects.disjoint a ha (heq ▸ hb)⟩
  rw [nodes, (Children.merge_perm hnodup).mem_iff, List.mem_append]

/-- **The imports of a file**: what the nodes bring, the packages that every schema uses, and those of
the type pairs and of the adapters if there are any. -/
theorem Makes.mem_imports {tree : ResourceTree} {options : FileOptions} {file : GeneratedFile}
    (h : tree.Makes options file) {i : Import} : i ∈ file.imports ↔
      (∃ node, tree.Reaches node ∧ node.Brings i) ∨
      (i = Package.context.origin ∨ i = Package.schema.origin) ∨
      (file.typePairs ≠ "" ∧ ∃ p ∈ GeneratedFile.typePairPackages, i = p.origin) ∨
      file.adapters ≠ "" ∧ i = Package.diag.origin := by
  have htree : i ∈ tree.imports ↔ ∃ node, tree.Reaches node ∧ node.Brings i := by
    rw [imports, Imports.mem_foldl_union]
    constructor
    · rintro (hnone | ⟨child, hchild, hi⟩)
      · exact absurd hnone Imports.not_mem_nothing
      · obtain ⟨node, hnode, hbrings⟩ := Node.mem_imports.mp hi
        exact ⟨node, ⟨child, hchild, hnode⟩, hbrings⟩
    · rintro ⟨node, ⟨child, hchild, hnode⟩, hbrings⟩
      exact .inr ⟨child, hchild, Node.mem_imports.mpr ⟨node, hnode, hbrings⟩⟩
  have hpackages : ∀ (packages : List Package) (imports : Imports),
      i ∈ packages.foldl Imports.insertPackage imports ↔
        i ∈ imports ∨ ∃ p ∈ packages, i = p.origin := by
    intro packages
    induction packages with
    | nil => simp
    | cons p packages ih => intro imports; simp [ih, or_assoc, or_left_comm]
  rw [h.imports_eq, GeneratedFile.allImports]
  simp only [String.isEmpty_iff]
  by_cases htypes : file.typePairs = "" <;> by_cases hadapters : file.adapters = "" <;>
    simp only [htypes, hadapters, if_true, if_false, Imports.mem_insertPackage, htree, hpackages,
      ne_eq, not_true_eq_false, not_false_eq_true, true_and, false_and, or_false, false_or,
      or_assoc, or_comm, or_left_comm]

/-- A node and the nodes below it are nodes of the tree. -/
theorem reaches_of_walk {tree : ResourceTree} {child inner : String × Node} (hchild : child ∈ tree.nodes)
    (hinner : inner ∈ child.2.walk child.1) : tree.Reaches inner.2 :=
  ⟨child, hchild, Node.reaches_iff_mem_walk.mpr ⟨inner.1, hinner⟩⟩

end ResourceTree

/-! ### What sections use -/

/-- A template uses the packages that its own texts mention. -/
theorem Template.uses_trace {template : Template} {context : Slot} {text : List Char} {p : Package}
    (htext : Source.mentions p text = true) (hpiece : .text (String.ofList text) ∈ template.pieces) :
    (template.trace context).UsesInside p := by
  have hpart : [.text (String.ofList text)] <:+: template.pieces := by
    obtain ⟨before, after, hpieces⟩ := List.append_of_mem hpiece
    exact ⟨before, after, by rw [hpieces, List.append_assoc]; rfl⟩
  exact (Source.UsesInside.fixed htext).mono (trace_part context hpart)

/-- A pair of types uses the packages that a file imports for pairs. -/
theorem NestedObject.uses_typePairSource (name : String) (object : NestedObject Node) {p : Package}
    (hp : p ∈ GeneratedFile.typePairPackages) : (object.typePairSource name).UsesInside p := by
  have hfmt : .text "\t\treturn nil, fmt.Errorf(\"expected %s, got %s\", t.TerraformType(ctx), in.Type())\n"
      ∈ Template.objectType.pieces := by
    simp [Template.objectType, Template.ObjectType.valueFromTerraform]
  have hattr : .text "Type) Equal(o attr.Type) bool \x7b\n" ∈ Template.objectType.pieces := by
    simp [Template.objectType, Template.ObjectType.equal]
  have hbasetypes : .text "\tbasetypes.ObjectType\n" ∈ Template.objectType.pieces := by
    simp [Template.objectType, Template.ObjectType.declaration]
  have hdiag : .text "\tvar diags diag.Diagnostics\n" ∈ Template.objectType.pieces := by
    simp [Template.objectType, Template.ObjectType.valueFromObject]
  have htftypes : .text "\tval := map[string]tftypes.Value\x7b\x7d\n" ∈ Template.objectType.pieces := by
    simp [Template.objectType, Template.ObjectType.valueFromTerraform]
  have htype : (Template.objectType.trace (object.slot name)).UsesInside p := by
    simp only [GeneratedFile.typePairPackages, List.mem_cons, List.not_mem_nil, or_false] at hp
    rcases hp with rfl | rfl | rfl | rfl | rfl
    · exact Template.uses_trace (by decide) hfmt
    · exact Template.uses_trace (by decide) hattr
    · exact Template.uses_trace (by decide) hbasetypes
    · exact Template.uses_trace (by decide) hdiag
    · exact Template.uses_trace (by decide) htftypes
  exact htype.before _

/-- A pair of adapters uses the package of diagnostics. -/
theorem Adapter.uses_source (adapter : Adapter) : adapter.source.UsesInside .diag := by
  have hdiag : .text "\tvar diags diag.Diagnostics\n" ∈ Template.adapters.pieces := by
    simp [Template.adapters, Template.Adapters.toExternal]
  exact Template.uses_trace (by decide) hdiag

/-- The type pairs of a tree use these packages if there are any. -/
theorem ResourceTree.uses_typePairsSource {tree : ResourceTree} {child : String × Node}
    (hchild : child ∈ tree.nodes) {owner : String × NestedObject Node}
    (howner : owner ∈ typeOwners (child.2.walk child.1)) {p : Package}
    (hp : p ∈ GeneratedFile.typePairPackages) : tree.typePairsSource.UsesInside p := by
  have hpair : (child.2.typePairsSource child.1).UsesInside p :=
    .flatMap (fun owner : String × NestedObject Node => owner.2.typePairSource owner.1) howner
      (owner.2.uses_typePairSource _ hp)
  exact .flatMap (fun child : String × Node => child.2.typePairsSource child.1) hchild hpair

theorem ResourceTree.uses_adaptersSource {tree : ResourceTree} {child : String × Node}
    (hchild : child ∈ tree.nodes) {adapter : Adapter}
    (hadapter : adapter ∈ child.2.boundAdapters child.1) : tree.adaptersSource.UsesInside .diag := by
  have hpair : (child.2.adaptersSource child.1).UsesInside .diag :=
    .flatMap Adapter.source hadapter adapter.uses_source
  exact .flatMap (fun child : String × Node => child.2.adaptersSource child.1) hchild hpair

/-- A node with adapters needs the packages of its type. -/
theorem Node.HasAdapter.needs {name : String} {node : Node} {adapter : Adapter}
    (h : node.HasAdapter name adapter) : node.Needs .types ∧ node.Needs .attr := by
  obtain ⟨body, hbody, -, hfields⟩ := h.object
  obtain ⟨-, hplain, -, -⟩ := Node.conversions_eq_ok.mp hfields
  exact ⟨.objectType hbody hplain, .attr hbody hplain⟩

/-! ### Sections of a tree -/

namespace ResourceTree

variable {tree : ResourceTree} {allowed : Package → Prop}

/-- The function that returns the schema uses what the schemas of nodes need, and the packages of
contexts and schemas. -/
theorem within_schemaSource (hpackages : SchemaPackages allowed) (hcontext : allowed .context)
    (hneeds : ∀ child, child ∈ tree.attributes ∨ child ∈ tree.blocks →
      ∀ inner, child.2.Reaches inner → ∀ p, inner.SchemaNeeds p → allowed p) :
    tree.schemaSource.Within allowed := by
  have hchildren : ∀ {children : Children Node},
      (∀ child ∈ children, child ∈ tree.attributes ∨ child ∈ tree.blocks) →
        (childSchemas children).Within allowed := fun hin =>
    Source.within_flatMap fun child hchild => hpackages.schemaSource (hneeds child (hin child hchild))
  have hattributes : tree.attributesClause.Within allowed := by
    rw [attributesClause, Source.within_enclose]
    exact ⟨hpackages.attributesOpening, hchildren fun _ hchild => .inl hchild, Clause.within_closing⟩
  have hblocks : tree.blocksClause.Within allowed := by
    unfold blocksClause
    split
    · exact Source.within_nil
    · rw [Source.within_enclose]
      exact ⟨hpackages.blocksOpening, hchildren fun _ hchild => .inr hchild, Clause.within_closing⟩
  simp only [schemaSource, schemaOpening, Source.within_enclose, Source.within_append,
    Source.within_cons]
  refine ⟨⟨.plain (by decide), .name _, .plain (by decide), .qualified hcontext (by decide),
    .plain (by decide), .qualified hpackages.schema (by decide), .plain (by decide),
    .qualified hpackages.schema (by decide), .plain (by decide), Source.within_nil⟩, ?_,
    .plain (by decide), Source.within_nil⟩
  exact ⟨⟨⟨hattributes, hblocks⟩, Clause.within_description _⟩, Clause.within_deprecation _⟩

/-- The model uses the package of types for nodes without a custom type. -/
theorem within_modelSource
    (htypes : ∀ child ∈ tree.nodes, child.2.customType = none → allowed .types) :
    tree.modelSource.Within allowed := by
  have hfields : ∀ field ∈ tree.modelFields, field.source.Within allowed := by
    intro field hfield
    obtain ⟨child, hchild, rfl⟩ := List.mem_map.mp hfield
    have hvalue : (child.2.modelField child.1).valueType.Within allowed := by
      cases hcustom : child.2.customType with
      | some custom =>
        simp only [Node.modelField, hcustom, Source.within_cons]
        exact ⟨.verbatim _, Source.within_nil⟩
      | none =>
        simp only [Node.modelField, hcustom, Source.within_cons]
        exact ⟨.qualified (htypes child hchild hcustom) child.2.kind.valueKind.isName_framework,
          Source.within_nil⟩
    simp only [ModelField.source, Source.within_enclose, Source.within_cons]
    exact ⟨⟨.name _, .plain (by decide), Source.within_nil⟩, hvalue, .plain (by decide), .verbatim _,
      .plain (by decide), Source.within_nil⟩
  simp only [modelSource, Source.within_enclose, Source.within_cons]
  refine ⟨⟨.plain (by decide), .name _, .plain (by decide), Source.within_nil⟩, ?_,
    .plain (by decide), Source.within_nil⟩
  refine Source.within_flatMap fun field hfield => ?_
  simp only [Source.within_enclose, Source.within_cons]
  exact ⟨⟨.plain (by decide), Source.within_nil⟩, hfields field hfield, .plain (by decide),
    Source.within_nil⟩

end ResourceTree

/-! ### Sections of a file -/

namespace ResourceTree.Makes

variable {tree : ResourceTree} {schema : Schema} {options : FileOptions} {file : GeneratedFile}

section Imports

variable (h : tree.Makes options file)

include h

theorem context_mem : Package.context.origin ∈ file.imports :=
  h.mem_imports.mpr (.inr (.inl (.inl rfl)))

theorem schema_mem : Package.schema.origin ∈ file.imports :=
  h.mem_imports.mpr (.inr (.inl (.inr rfl)))

/-- A package that a node needs is imported. -/
theorem needed_mem {node : Node} (hnode : tree.Reaches node) {p : Package} (hneeds : node.Needs p) :
    p.origin ∈ file.imports :=
  h.mem_imports.mpr (.inl ⟨node, hnode, hneeds.brings⟩)

/-- The packages of pairs are imported if there is a pair. -/
theorem typePair_mem {child : String × Node} (hchild : child ∈ tree.nodes)
    {owner : String × NestedObject Node} (howner : owner ∈ typeOwners (child.2.walk child.1))
    {p : Package} (hp : p ∈ GeneratedFile.typePairPackages) : p.origin ∈ file.imports := by
  have hsome : file.typePairs ≠ "" :=
    h.typePairs_eq ▸ (uses_typePairsSource hchild howner hp).text_ne_empty
  exact h.mem_imports.mpr (.inr (.inr (.inl ⟨hsome, p, hp, rfl⟩)))

/-- The package of diagnostics is imported if there is a pair of adapters. -/
theorem diag_mem {child : String × Node} (hchild : child ∈ tree.nodes) {adapter : Adapter}
    (hadapter : adapter ∈ child.2.boundAdapters child.1) : Package.diag.origin ∈ file.imports := by
  have hsome : file.adapters ≠ "" :=
    h.adapters_eq ▸ (uses_adaptersSource hchild hadapter).text_ne_empty
  exact h.mem_imports.mpr (.inr (.inr (.inr ⟨hsome, rfl⟩)))

end Imports

/-- The packages that a section may use: those that the file imports, and those of validators and plan
modifiers, as their lists do not always import them. -/
def Allowed (file : GeneratedFile) (p : Package) : Prop :=
  p.origin ∈ file.imports ∨ p = .planmodifier ∨ p = .validator

theorem schema_within (h : tree.Makes options file) (hrepresents : tree.Represents schema) :
    tree.schemaSource.Within (Allowed file) := by
  have hpackages : SchemaPackages (Allowed file) :=
    ⟨.inl h.schema_mem, .inr (.inl rfl), .inr (.inr rfl)⟩
  refine within_schemaSource hpackages (.inl h.context_mem) fun child hchild inner hinner p hp => ?_
  exact .inl (h.needed_mem ⟨child, hrepresents.mem_nodes.mpr hchild, hinner⟩ hp.needs)

theorem model_within (h : tree.Makes options file) : tree.modelSource.Within (Allowed file) :=
  within_modelSource fun child hchild hplain =>
    .inl (h.needed_mem ⟨child, hchild, .refl _⟩ (Node.needs_types_of_customType hplain))

theorem typePairs_within (h : tree.Makes options file) :
    tree.typePairsSource.Within (Allowed file) := by
  refine Source.within_flatMap fun child hchild => Source.within_flatMap fun owner howner => ?_
  obtain ⟨node, hnode, hobject, hplain⟩ := mem_typeOwners.mp howner
  have htypes : node.Needs .types := .objectType hobject hplain
  have huses : ∀ p ∈ typePairUses, p = .context ∨ p = .types ∨ p ∈ GeneratedFile.typePairPackages := by
    decide
  refine (owner.2.within_typePairSource owner.1).mono fun p hp => .inl ?_
  rcases huses p hp with rfl | rfl | hpairs
  · exact h.context_mem
  · exact h.needed_mem (reaches_of_walk hchild hnode) htypes
  · exact h.typePair_mem hchild howner hpairs

theorem adapters_within (h : tree.Makes options file) :
    tree.adaptersSource.Within (Allowed file) := by
  refine Source.within_flatMap fun child hchild => Source.within_flatMap fun adapter hadapter => ?_
  obtain ⟨inner, hinner, hhas⟩ := Node.mem_boundAdapters hadapter
  have huses : ∀ p ∈ adapterUses, p = .context ∨ p = .attr ∨ p = .types ∨ p = .diag := by decide
  refine adapter.within_source.mono fun p hp => .inl ?_
  rcases huses p hp with rfl | rfl | rfl | rfl
  · exact h.context_mem
  · exact h.needed_mem (reaches_of_walk hchild hinner) hhas.needs.2
  · exact h.needed_mem (reaches_of_walk hchild hinner) hhas.needs.1
  · exact h.diag_mem hchild hadapter

end ResourceTree.Makes

/-! ### Files of resources -/

/-- A file that is generated for a resource is made of the tree that is built for it. -/
theorem Resource.makes_of_generate {options : FileOptions} {resource : Resource}
    {file : GeneratedFile} (h : resource.generate options = .ok file) :
    ∃ tree, resource.build = .ok tree ∧ tree.Makes options file := by
  obtain ⟨tree, htree, hfile⟩ := bind_eq_ok.mp h
  exact ⟨tree, htree, ResourceTree.makes_of_generate hfile⟩

/-- **Packages that are used are imported.**  A generated file consists of the sections of the
resource's tree, and the file imports every package of the framework that the generator uses in what
it writes there, besides the packages of lists of validators and plan modifiers. -/
theorem used_packages_imported {options : FileOptions} {resource : Resource} {file : GeneratedFile}
    (h : resource.generate options = .ok file) :
    ∃ tree, resource.build = .ok tree ∧ tree.Makes options file ∧
      ∀ source ∈ tree.sections, ∀ p : Package, source.Uses p → p ≠ .planmodifier → p ≠ .validator →
        p.origin ∈ file.imports ∧ file.imports.containsPath p.path = true := by
  obtain ⟨tree, htree, hmakes⟩ := Resource.makes_of_generate h
  obtain ⟨schema, -, hrepresents⟩ := Resource.represented htree
  refine ⟨tree, htree, hmakes, fun source hsource p huses hplan hvalidator => ?_⟩
  have hwithin : source.Within (ResourceTree.Makes.Allowed file) := by
    simp only [ResourceTree.sections, List.mem_cons, List.not_mem_nil, or_false] at hsource
    rcases hsource with rfl | rfl | rfl | rfl
    · exact hmakes.schema_within hrepresents
    · exact hmakes.model_within
    · exact hmakes.typePairs_within
    · exact hmakes.adapters_within
  have hmem : p.origin ∈ file.imports :=
    (hwithin.uses huses).resolve_right (not_or.mpr ⟨hplan, hvalidator⟩)
  exact ⟨hmem, Imports.containsPath_of_mem hmem⟩

/-- An unbound object with a number that has a default. -/
def countedAttribute : Attribute :=
  .mk "limit" (.single { mode := .optional } none
    [.mk "count" (.leaf (.int64 { mode := .computed, default := some { literal := some 3 } }))])

def countedResource : Resource :=
  { name := "server", schema := some { attributes := [countedAttribute] } }

/-- The pair of the object uses the package of formats, so this package is imported. -/
theorem used_packages_imported_countedResource :
    ∃ file tree, countedResource.generate {} = .ok file ∧ countedResource.build = .ok tree ∧
      tree.typePairsSource.Uses .fmt ∧ file.imports.containsPath Package.fmt.path = true := by
  have hobject : NestedObject.build "server" [countedAttribute] [] = .ok _ :=
    (NestedObject.build_eq _ _ _).trans rfl
  obtain ⟨tree, hbuild, node, hnodes, hbound, object, howned, hplain⟩ :
      ∃ tree, countedResource.build = .ok tree ∧ ∃ node, tree.nodes = [("limit", node)] ∧
        node.isBound = false ∧ ∃ object, node.object? = some object ∧ object.customType = none := by
    simp only [countedResource, Resource.build, hobject]
    exact ⟨_, rfl, _, rfl, rfl, _, rfl, rfl⟩
  have hunbound : ∀ child ∈ tree.nodes, child.2.isBound = false := by simp [hnodes, hbound]
  obtain ⟨file, hfile, -⟩ := ResourceTree.exists_generate_of_unbound {} hunbound
  have hgenerate : countedResource.generate {} = .ok file := bind_eq_ok.mpr ⟨tree, hbuild, hfile⟩
  have huses : tree.typePairsSource.UsesInside .fmt := by
    have hchild : ("limit", node) ∈ tree.nodes := hnodes ▸ List.mem_cons_self
    have hself : ("limit", node) ∈ node.walk "limit" := node.walk_eq "limit" ▸ List.mem_cons_self
    have howner : ("limit", object) ∈ typeOwners (node.walk "limit") :=
      mem_typeOwners.mpr ⟨node, hself, howned, hplain⟩
    exact ResourceTree.uses_typePairsSource hchild howner (by decide)
  obtain ⟨tree', hbuild', -, himported⟩ := used_packages_imported hgenerate
  obtain rfl : tree = tree' := Except.ok.inj (hbuild.symm.trans hbuild')
  have hsection : tree.typePairsSource ∈ tree.sections := by simp [ResourceTree.sections]
  exact ⟨file, tree, hgenerate, hbuild, huses.uses,
    (himported _ hsection .fmt huses.uses (by decide) (by decide)).2⟩

end ProviderCode
