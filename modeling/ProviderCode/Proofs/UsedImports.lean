import ProviderCode.Proofs.SchemaSources
import ProviderCode.Proofs.UsedPackages

/-!
# Imports that are used

The other direction: where the sections of a file use the packages that the file imports.  What a
schema needs is used in it, the packages of pairs in the pairs, and the package of types in the
model.

Main statement: a file uses the packages that it imports, with two exceptions.  Imports are collected
from all nodes, but the model has only those at the top, and adapters are made only below bound nodes
at the top.  So in a file without type pairs the packages of types and of base types may be unused, and
the library of a bound object inside one that is not bound is imported without adapters.
-/

namespace ProviderCode

variable {p : Package}

/-! ### Expressions -/

namespace ElementType

/-- A map of types uses the package of attributes. -/
theorem uses_mapExpression (entries : List (String × Source)) :
    (mapExpression entries).UsesInside .attr := by
  have hopening : Source.UsesInside [.fixed "map[string]", .qualified .attr "Type"] .attr :=
    .qualified (by decide)
  exact hopening.before _

/-- A map of types uses what the expression of one of the types uses after a colon. -/
theorem uses_entry {entries : List (String × Source)} {entry : String × Source}
    (hentry : entry ∈ entries) (h : Source.UsesInside (.fixed ": " :: entry.2) p) :
    (mapExpression entries).UsesInside p := by
  have hinner : Source.UsesInside (entries.flatMap fun entry =>
      Source.enclose [.literal entry.1, .fixed ": "] entry.2 [.fixed ",\n"]) p :=
    .flatMap (fun entry : String × Source =>
        Source.enclose [.literal entry.1, .fixed ": "] entry.2 [.fixed ",\n"]) hentry
      (h.mono ⟨[.literal entry.1], [.fixed ",\n"], rfl⟩)
  exact hinner.mono ⟨_, _, rfl⟩

theorem mem_expressions {types : List (String × ElementType)} {named : String × ElementType}
    (h : named ∈ types) : (named.1, named.2.expression) ∈ expressions types := by
  induction types with
  | nil => exact absurd h List.not_mem_nil
  | cons first rest ih =>
    rw [expressions]
    rcases List.mem_cons.mp h with rfl | h
    · exact List.mem_cons_self
    · exact List.mem_cons_of_mem _ (ih h)

/-- The expression of a type uses what the type needs, after a text that no name continues. -/
theorem Needs.uses {type : ElementType} (h : type.Needs p) {text : List Char}
    (hlast : text.getLast?.map continuesName = some false) :
    Source.UsesInside (.fixed (String.ofList text) :: type.expression) p := by
  induction h generalizing text with
  | @types type plain =>
    have hopening (member : String) :
        Source.UsesInside [.fixed (String.ofList text), .qualified .types member] .types :=
      .qualified hlast
    cases type with
    | scalar type custom =>
      cases plain
      exact hopening _
    | collection shape custom element =>
      cases plain
      exact (hopening _).before _
    | object custom attributes =>
      cases plain
      exact (hopening _).before _
  | @element shape element p _ ih =>
    have helement : Source.UsesInside (.fixed "\x7b\nElemType: " :: element.expression) p :=
      ih (by decide)
    exact helement.mono ⟨[_, _], [_], rfl⟩
  | @attr attributes =>
    exact (uses_mapExpression _).mono ⟨[_, _, _], [_], rfl⟩
  | @entry attributes named p mem _ ih =>
    have hentry : (mapExpression (byName (expressions attributes))).UsesInside p :=
      uses_entry (List.mem_mergeSort.mpr (mem_expressions mem)) (ih (by decide))
    exact hentry.mono ⟨[_, _, _], [_], rfl⟩

end ElementType

theorem AttributeTypes.Needs.uses {types : List (String × ElementType)}
    (h : AttributeTypes.Needs types p) : (AttributeTypes.expression types).UsesInside p := by
  rcases h with rfl | ⟨named, hnamed, hneeds⟩
  · exact ElementType.uses_mapExpression _
  · exact ElementType.uses_entry (ElementType.mem_expressions hnamed) (hneeds.uses (by decide))

/-! ### Schemas -/

theorem DefaultValue.uses_clause {d : DefaultValue} (h : d.package? = some p) :
    d.clause.UsesInside p := by
  have hopening (member : String) :
      Source.UsesInside [.fixed "Default: ", .qualified p member] p := .qualified (by decide)
  cases d with
  | custom d => cases h
  | _ =>
    cases h
    exact (hopening _).before _

/-- A list with a definition uses its package. -/
theorem Extensions.uses_clause {extensions : Extensions} (h : extensions.definitions ≠ [])
    (field : String) (package : Package) : (extensions.clause field package).UsesInside package := by
  have hsome : extensions.definitions.isEmpty = false := by simpa using h
  have hopening : Source.UsesInside
      [.fixed (field ++ ": []"), .qualified package extensions.kind.framework] package :=
    .qualified_append (by decide)
  rw [clause, hsome, if_neg Bool.false_ne_true]
  exact hopening.before _

theorem CustomType.uses_objectClause (name : String) : (objectClause name none).UsesInside .types := by
  have htype : Source.UsesInside
      [.fixed "Type\x7b\nObjectType: ", .qualified .types "ObjectType"] .types :=
    .qualified (by decide)
  exact htype.mono ⟨[_, _], [_, _, _], rfl⟩

namespace Node

variable {node : Node} {name : String}

/-- A schema uses what the facets of its node use. -/
theorem uses_of_facets (h : node.facets.clauses.UsesInside p) :
    (node.schemaSource name).UsesInside p := by
  have hpart : Part.source (node.facets.clauses ++ Clause.closing) ∈ node.schemaParts name :=
    List.mem_append_right _ List.mem_cons_self
  exact uses_schemaSource hpart (h.before _)

/-- A schema uses what the content of its node uses. -/
theorem uses_of_content {source : Source} (hpart : .source source ∈ node.contentParts name)
    (h : source.UsesInside p) : (node.schemaSource name).UsesInside p :=
  uses_schemaSource (Part.mem_enclose hpart _ _) h

/-- The clause that ends the object of a node that is not single. -/
theorem mem_contentParts_object {kind : NestedKind} {f : NodeFacets} {object : NestedObject Node}
    (h : kind.isSingle = false) : Part.source
      (CustomType.objectClause (Name.pascal name) object.customType ++
        object.planModifiers.planModifiersClause ++ object.validators.validatorsClause ++
        Clause.closing) ∈ (Node.nested kind f object).contentParts name := by
  rw [contentParts, h, if_neg Bool.false_ne_true]
  exact List.mem_append_left _ (List.mem_append_right _ List.mem_cons_self)

/-- What a schema needs is used in it. -/
theorem SchemaNeeds.uses (h : node.SchemaNeeds p) (name : String) :
    (node.schemaSource name).UsesInside p := by
  cases h with
  | elementType eq h =>
    subst eq
    have helement : (Clause.elementType _).UsesInside p := (h.uses (by decide)).before _
    exact uses_of_content List.mem_cons_self (helement.before _)
  | attributeTypes eq h =>
    subst eq
    have htypes : (Clause.attributeTypes _).UsesInside p := h.uses.mono ⟨[_], [_], rfl⟩
    exact uses_of_content List.mem_cons_self (htypes.before _)
  | @default d _ given h =>
    have hclause : ((node.facets.default.map DefaultValue.clause).getD []).UsesInside p := by
      rw [given]
      exact DefaultValue.uses_clause h
    exact uses_of_facets (hclause.behind _)
  | @objectType object owned plain =>
    have htype := CustomType.uses_objectClause (Name.pascal name)
    rw [← plain] at htype
    cases node with
    | nested kind f body =>
      cases owned
      by_cases hsingle : kind.isSingle = true
      · refine uses_of_content ?_ htype
        rw [contentParts, if_pos hsingle]
        exact List.mem_append_right _ List.mem_cons_self
      · exact uses_of_content (mem_contentParts_object (Bool.not_eq_true _ ▸ hsingle))
          (((htype.before _).before _).before _)
    | _ => cases owned

/-- The package of a list is used if there is a definition in the list. -/
theorem Built.uses_list (hbuilt : node.Built) {field : String} {extensions : Extensions}
    (h : node.Lists field p extensions) (hsome : extensions.definitions ≠ []) (name : String) :
    (node.schemaSource name).UsesInside p := by
  have hclause : (extensions.clause field p).UsesInside p := Extensions.uses_clause hsome field p
  have hcollective {object : NestedObject Node} (owned : node.object? = some object)
      (hlist : object.planModifiers.definitions ≠ [] ∨ object.validators.definitions ≠ []) :
      ∃ kind f, kind.isSingle = false ∧ node = .nested kind f object := by
    cases node with
    | nested kind f body =>
      cases owned
      refine ⟨kind, f, ?_, rfl⟩
      by_contra hsingle
      obtain ⟨hplan, hvalidators⟩ := hbuilt.no_lists (Bool.not_eq_false _ ▸ hsingle) rfl
      exact hlist.elim (absurd hplan) (absurd hvalidators)
    | _ => cases owned
  cases h with
  | planModifiers => exact uses_of_facets (((hclause.behind _).before _).before _)
  | validators => exact uses_of_facets ((hclause.behind _).before _)
  | objectPlanModifiers owned =>
    obtain ⟨kind, f, hkind, rfl⟩ := hcollective owned (.inl hsome)
    exact uses_of_content (mem_contentParts_object hkind) (((hclause.behind _).before _).before _)
  | objectValidators owned =>
    obtain ⟨kind, f, hkind, rfl⟩ := hcollective owned (.inr hsome)
    exact uses_of_content (mem_contentParts_object hkind) ((hclause.behind _).before _)

end Node

/-! ### Adapters -/

/-- Both methods of a pair of adapters are written with an external type: one returns a value of it,
the other one takes one. -/
def ExternalType.Adapted (t : ExternalType) (text : String) : Prop :=
  Occurs ("(ctx context.Context) (" ++ t.type ++ ", diag.Diagnostics) \x7b\n") text ∧
    Occurs ("(ctx context.Context, apiObject " ++ t.type ++ ") (") text

/-- A part of a source has its text in the text of the whole. -/
theorem Source.occurs_text {part whole : Source} (h : part <:+: whole) :
    Occurs part.text whole.text := by
  obtain ⟨before, after, rfl⟩ := h
  exact ⟨Source.text before, Source.text after, by rw [Source.text_append, Source.text_append]⟩

/-- A pair of adapters is written with its external type, wherever the pair stands. -/
theorem Adapter.adapted {adapter : Adapter} {whole : Source} (h : adapter.source <:+: whole) :
    adapter.external.Adapted whole.text := by
  have hto : [.text "(ctx context.Context) (", .value ⟨"external_type", []⟩,
      .text ", diag.Diagnostics) \x7b\n"] <:+: Template.adapters.pieces :=
    ⟨[_, _, _, _, _], _, rfl⟩
  have hfrom : [.text "(ctx context.Context, apiObject ", .value ⟨"external_type", []⟩,
      .text ") ("] <:+: Template.adapters.pieces :=
    ⟨Template.Adapters.toExternal ++ [_, _, _, _, _], _, rfl⟩
  have htoSource : [.fixed "(ctx context.Context) (", .verbatim adapter.external.type,
      .fixed ", diag.Diagnostics) \x7b\n"] <:+: whole := (Template.trace_part _ hto).trans h
  have hfromSource : [.fixed "(ctx context.Context, apiObject ", .verbatim adapter.external.type,
      .fixed ") ("] <:+: whole := (Template.trace_part _ hfrom).trans h
  have htext (before between : String) (t : String) :
      Source.text [.fixed before, .verbatim t, .fixed between] = before ++ t ++ between := by
    simp [Chunk.text, String.append_assoc]
  have hboth := And.intro (Source.occurs_text htoSource) (Source.occurs_text hfromSource)
  rwa [htext, htext] at hboth

/-- If there are adapters of a bound node, then also of each bound node below it. -/
theorem Node.exists_adapter {name text : String} {node inner : Node} (h : node.adapters name = .ok text)
    (hbound : node.isBound = true) {key : String} (hinner : (key, inner) ∈ node.walk name)
    (hinnerBound : inner.isBound = true) :
    ∃ adapter ∈ node.boundAdapters name, inner.HasAdapter key adapter := by
  rw [adapters_eq hbound, preorder_eq, map_eq_ok] at h
  obtain ⟨texts, htexts, rfl⟩ := h
  have hvisited : (key, inner) ∈ (node.walk name).filter (·.2.isBound) :=
    List.mem_filter.mpr ⟨hinner, hinnerBound⟩
  obtain ⟨own, hown⟩ := exists_forall₂_iff.mp ⟨texts, mapM_eq_ok.mp htexts⟩ _ hvisited
  obtain ⟨adapter, hadapter, -⟩ := (ownAdapters_eq_ok hinnerBound).mp hown
  refine ⟨adapter, ?_, hadapter⟩
  rw [boundAdapters, if_pos hbound]
  exact List.mem_filterMap.mpr ⟨(key, inner), hvisited, adapter?_eq_some.mpr hadapter⟩

/-! ### Sections of a file -/

namespace ResourceTree

variable {tree : ResourceTree} {child : String × Node}

/-- The model uses the package of types for a node at the top without a custom type. -/
theorem uses_modelSource (hchild : child ∈ tree.nodes) (hplain : child.2.customType = none) :
    tree.modelSource.UsesInside .types := by
  have htype : Source.UsesInside
      [.fixed " ", .qualified .types child.2.kind.valueKind.framework] .types := .qualified (by decide)
  have hfield : (child.2.modelField child.1).source.UsesInside .types := by
    rw [ModelField.source, Node.modelField]
    simp only [hplain]
    exact htype.mono ⟨[_], [_, _, _], rfl⟩
  have hfields : Source.UsesInside (tree.modelFields.flatMap fun field =>
      Source.enclose [.fixed "\t"] field.source [.fixed "\n"]) .types :=
    .flatMap (fun field : ModelField => Source.enclose [.fixed "\t"] field.source [.fixed "\n"])
      (List.mem_map_of_mem hchild) ((hfield.behind _).before _)
  exact (hfields.behind _).before _

/-- The schema of a resource uses what the schema of a node at the top uses. -/
theorem Represents.uses_schemaSource {schema : Schema} (h : tree.Represents schema)
    (hchild : child ∈ tree.nodes) {p : Package} (huses : (child.2.schemaSource child.1).UsesInside p) :
    tree.schemaSource.UsesInside p := by
  have hin {children : Children Node} (hmem : child ∈ children) :
      (childSchemas children).UsesInside p :=
    .flatMap (fun child : String × Node => child.2.schemaSource child.1) hmem huses
  suffices (tree.attributesClause ++ tree.blocksClause ++ Clause.description tree.description ++
      Clause.deprecation tree.deprecation).UsesInside p from (this.behind _).before _
  rcases h.mem_nodes.mp hchild with hmem | hmem
  · have hclause : tree.attributesClause.UsesInside p := ((hin hmem).behind _).before _
    exact ((hclause.before _).before _).before _
  · have hclause : tree.blocksClause.UsesInside p := by
      have hsome : tree.blocks.isEmpty = false := List.isEmpty_eq_false_iff_exists_mem.mpr ⟨_, hmem⟩
      rw [blocksClause, hsome, if_neg Bool.false_ne_true]
      exact ((hin hmem).behind _).before _
    exact ((hclause.behind _).before _).before _

theorem uses_schemaOpening (tree : ResourceTree) :
    tree.schemaSource.UsesInside .context ∧ tree.schemaSource.UsesInside .schema := by
  have hcontext : Source.UsesInside
      [.fixed "ResourceSchema(ctx ", .qualified .context "Context"] .context := .qualified (by decide)
  have hschema : Source.UsesInside [.fixed ") ", .qualified .schema "Schema"] .schema :=
    .qualified (by decide)
  have hopening : tree.schemaOpening.UsesInside .context ∧ tree.schemaOpening.UsesInside .schema :=
    ⟨hcontext.mono ⟨[_, _], _, rfl⟩, hschema.mono ⟨[_, _, _, _], _, rfl⟩⟩
  exact hopening.imp (fun h => (h.before _).before _) fun h => (h.before _).before _

end ResourceTree

/-! ### Resources -/

theorem subset_writtenInAttributes {a : Attribute} {as : List Attribute} (h : a ∈ as) :
    a.written ⊆ writtenInAttributes as := by
  induction as with
  | nil => exact absurd h List.not_mem_nil
  | cons first rest ih =>
    rw [writtenInAttributes]
    rcases List.mem_cons.mp h with rfl | h
    · exact List.subset_append_left _ _
    · exact fun i hi => List.mem_append_right _ (ih h hi)

theorem subset_writtenInBlocks {b : Block} {bs : List Block} (h : b ∈ bs) :
    b.written ⊆ writtenInBlocks bs := by
  induction bs with
  | nil => exact absurd h List.not_mem_nil
  | cons first rest ih =>
    rw [writtenInBlocks]
    rcases List.mem_cons.mp h with rfl | h
    · exact List.subset_append_left _ _
    · exact fun i hi => List.mem_append_right _ (ih h hi)

/-- The nodes at the top of a resource's tree are built, and nothing is written in them that is not
written in the resource. -/
theorem Resource.built_of_node {resource : Resource} {tree : ResourceTree}
    (h : resource.build = .ok tree) {child : String × Node} (hchild : child ∈ tree.nodes) :
    child.2.Built ∧ child.2.WritesIn resource.written := by
  obtain ⟨schema, object, hschema, hmade, has, hbs⟩ := Resource.madeOf_build h
  have hwritten : resource.written = writtenInAttributes schema.attributes ++
      writtenInBlocks schema.blocks := by
    rw [Resource.written, hschema]
  rw [hwritten]
  rcases Children.mem_merge hchild with hmem | hmem
  · rw [has] at hmem
    obtain ⟨as, hperm, hall⟩ := hmade.attributes_perm
    obtain ⟨a, ha, -, hbuild⟩ := exists_partner hall (hperm.mem_iff.mp hmem)
    have hwrites : child.2.WritesIn a.written :=
      Attribute.writesIn_construct (a.build_eq.symm.trans hbuild)
    refine ⟨.inl ⟨a, hbuild⟩, hwrites.mono fun i hi => ?_⟩
    exact List.mem_append_left _ (subset_writtenInAttributes ha hi)
  · rw [hbs] at hmem
    obtain ⟨bs, hperm, hall⟩ := hmade.blocks_perm
    obtain ⟨b, hb, -, hbuild⟩ := exists_partner hall (hperm.mem_iff.mp hmem)
    have hwrites : child.2.WritesIn b.written :=
      Block.writesIn_construct (b.build_eq.symm.trans hbuild)
    refine ⟨.inr ⟨b, hbuild⟩, hwrites.mono fun i hi => ?_⟩
    exact List.mem_append_right _ (subset_writtenInBlocks hb hi)

/-! ### Imports of a file -/

namespace ResourceTree

variable {tree : ResourceTree} {schema : Schema} {options : FileOptions} {file : GeneratedFile}

/-- Some section uses a package. -/
def UsesPackage (tree : ResourceTree) (p : Package) : Prop := ∃ source ∈ tree.sections, source.Uses p

theorem UsesPackage.of_schema (h : tree.schemaSource.UsesInside p) : tree.UsesPackage p :=
  ⟨_, by simp [sections], h.uses⟩

theorem UsesPackage.of_model (h : tree.modelSource.UsesInside p) : tree.UsesPackage p :=
  ⟨_, by simp [sections], h.uses⟩

theorem UsesPackage.of_typePairs (h : tree.typePairsSource.UsesInside p) : tree.UsesPackage p :=
  ⟨_, by simp [sections], h.uses⟩

theorem UsesPackage.of_adapters (h : tree.adaptersSource.UsesInside p) : tree.UsesPackage p :=
  ⟨_, by simp [sections], h.uses⟩

/-- A node with an object that a pair of types is made for. -/
structure OwnsPair (tree : ResourceTree) (node : Node) (object : NestedObject Node) : Prop where
  reaches : tree.Reaches node
  object_eq : node.object? = some object
  plain : object.customType = none

/-- If there are pairs of types, some node owns one. -/
theorem Makes.exists_ownsPair (h : tree.Makes options file) (hsome : file.typePairs ≠ "") :
    ∃ node object, tree.OwnsPair node object := by
  have hne : tree.typePairsSource ≠ [] := fun hnil => hsome (by rw [h.typePairs_eq, hnil]; rfl)
  obtain ⟨chunk, hchunk⟩ := List.exists_mem_of_ne_nil _ hne
  obtain ⟨child, hchild, hin⟩ := List.mem_flatMap.mp hchunk
  obtain ⟨⟨key, object⟩, howner, -⟩ := List.mem_flatMap.mp hin
  obtain ⟨node, hnode, hobject, hplain⟩ := mem_typeOwners.mp howner
  exact ⟨node, object, reaches_of_walk hchild hnode, hobject, hplain⟩

theorem OwnsPair.uses_typePairs {node : Node} {object : NestedObject Node}
    (h : tree.OwnsPair node object) (hp : p ∈ GeneratedFile.typePairPackages) :
    tree.UsesPackage p := by
  obtain ⟨child, hchild, hnode⟩ := h.reaches
  obtain ⟨key, hwalk⟩ := Node.reaches_iff_mem_walk.mp hnode
  exact .of_typePairs (uses_typePairsSource hchild
    (mem_typeOwners.mpr ⟨node, hwalk, h.object_eq, h.plain⟩) hp)

/-- What the schema of a node uses under any name is used in the schema of the resource. -/
theorem Represents.uses_of_reaches (h : tree.Represents schema)
    (hbuilt : ∀ child ∈ tree.nodes, child.2.Built) {node : Node} (hnode : tree.Reaches node)
    (huses : ∀ name, (node.schemaSource name).UsesInside p) : tree.UsesPackage p := by
  obtain ⟨child, hchild, hinner⟩ := hnode
  exact .of_schema (h.uses_schemaSource hchild
    ((hbuilt child hchild).uses_schemaSource hinner huses child.1))

/-- The packages that may be imported for a node without being used: where no pair of types is made,
that of base types, which external types bring, and that of types, if the model does not use it. -/
def MayBeUnused (tree : ResourceTree) (file : GeneratedFile) (p : Package) : Prop :=
  file.typePairs = "" ∧
    (p = .basetypes ∨ p = .types ∧ ∀ child ∈ tree.nodes, child.2.customType ≠ none)

/-- What a node needs is used. -/
theorem Makes.uses_needed (h : tree.Makes options file) (hrepresents : tree.Represents schema)
    (hbuilt : ∀ child ∈ tree.nodes, child.2.Built) {node : Node} (hnode : tree.Reaches node)
    (hneeds : node.Needs p) : tree.UsesPackage p ∨ tree.MayBeUnused file p := by
  have hschema (hneeds : node.SchemaNeeds p) : tree.UsesPackage p :=
    hrepresents.uses_of_reaches hbuilt hnode hneeds.uses
  cases hneeds with
  | values collective plain =>
    by_cases hpairs : file.typePairs = ""
    · by_cases htop : ∀ child ∈ tree.nodes, child.2.customType ≠ none
      · exact .inr ⟨hpairs, .inr ⟨rfl, htop⟩⟩
      · obtain ⟨child, hchild, hplain⟩ : ∃ child ∈ tree.nodes, child.2.customType = none := by
          simpa using htop
        exact .inl (.of_model (uses_modelSource hchild hplain))
    · -- the type of any object without a custom type uses the package as well
      obtain ⟨owner, object, howns⟩ := h.exists_ownsPair hpairs
      have htype : owner.SchemaNeeds .types := .objectType howns.object_eq howns.plain
      exact .inl (hrepresents.uses_of_reaches hbuilt howns.reaches htype.uses)
  | elementType eq h => exact .inl (hschema (.elementType eq h))
  | attributeTypes eq h => exact .inl (hschema (.attributeTypes eq h))
  | default given h => exact .inl (hschema (.default given h))
  | list listed himport =>
    obtain ⟨child, hchild, hinner⟩ := hnode
    obtain ⟨d, hd, -⟩ := himport
    have hnode : node.Built := (hbuilt child hchild).reaches hinner
    exact .inl (hrepresents.uses_of_reaches hbuilt ⟨child, hchild, hinner⟩
      (hnode.uses_list listed (List.ne_nil_of_mem hd)))
  | attr owned plain =>
    exact .inl (OwnsPair.uses_typePairs ⟨hnode, owned, plain⟩ (by decide))
  | objectType owned plain => exact .inl (hschema (.objectType owned plain))
  | external =>
    by_cases hpairs : file.typePairs = ""
    · exact .inr ⟨hpairs, .inl rfl⟩
    · obtain ⟨owner, object, howns⟩ := h.exists_ownsPair hpairs
      exact .inl (howns.uses_typePairs (by decide))

/-- Every package that a file imports is used or written in its nodes. -/
theorem Makes.uses_imported (h : tree.Makes options file) (hrepresents : tree.Represents schema)
    (hbuilt : ∀ child ∈ tree.nodes, child.2.Built) (hmem : p.origin ∈ file.imports) :
    (∃ node, tree.Reaches node ∧ p.origin ∈ node.written) ∨ tree.UsesPackage p ∨
      tree.MayBeUnused file p := by
  rcases h.mem_imports.mp hmem with ⟨node, hnode, hbrings⟩ | hscaffold | ⟨hsome, q, hq, heq⟩ | ⟨hsome, heq⟩
  · rcases hbrings.needs_or_written with hneeds | hwritten
    · exact .inr (h.uses_needed hrepresents hbuilt hnode hneeds)
    · exact .inl ⟨node, hnode, hwritten⟩
  · obtain ⟨hcontext, hschema⟩ := tree.uses_schemaOpening
    rcases hscaffold with heq | heq
    · exact .inr (.inl (.of_schema (Package.origin_injective heq ▸ hcontext)))
    · exact .inr (.inl (.of_schema (Package.origin_injective heq ▸ hschema)))
  · obtain ⟨node, object, howns⟩ := h.exists_ownsPair hsome
    exact .inr (.inl (howns.uses_typePairs (Package.origin_injective heq ▸ hq)))
  · have hne : tree.adaptersSource ≠ [] := fun hnil => hsome (by rw [h.adapters_eq, hnil]; rfl)
    obtain ⟨chunk, hchunk⟩ := List.exists_mem_of_ne_nil _ hne
    obtain ⟨child, hchild, hin⟩ := List.mem_flatMap.mp hchunk
    obtain ⟨adapter, hadapter, -⟩ := List.mem_flatMap.mp hin
    exact .inr (.inl (.of_adapters
      (Package.origin_injective heq ▸ uses_adaptersSource hchild hadapter)))

/-- Below a bound node at the top, external types have adapters. -/
theorem Makes.adapted (h : tree.Makes options file) {child : String × Node} (hchild : child ∈ tree.nodes)
    (hbound : child.2.isBound = true) {inner : Node} (hinner : child.2.Reaches inner)
    {object : NestedObject Node} {t : ExternalType} (hobject : inner.object? = some object)
    (ht : object.external = some t) : t.Adapted file.adapters := by
  obtain ⟨texts, htexts, -⟩ := bind_eq_ok.mp h.adapters_ok
  obtain ⟨text, htext⟩ := exists_forall₂_iff.mp ⟨texts, mapM_eq_ok.mp htexts⟩ child hchild
  obtain ⟨key, hwalk⟩ := Node.reaches_iff_mem_walk.mp hinner
  have hinnerBound : inner.isBound = true := Node.isBound_iff.mpr ⟨object, t, hobject, ht⟩
  obtain ⟨adapter, hadapter, hhas⟩ := Node.exists_adapter htext hbound hwalk hinnerBound
  obtain ⟨body, hbody, hexternal, -⟩ := hhas.object
  cases hobject.symm.trans hbody
  cases ht.symm.trans hexternal
  rw [h.adapters_eq]
  have hpart : adapter.source <:+: child.2.adaptersSource child.1 :=
    Source.part_of_mem Adapter.source hadapter
  exact Adapter.adapted (hpart.trans
    (Source.part_of_mem (fun child : String × Node => child.2.adaptersSource child.1) hchild))

end ResourceTree

/-- **Imports that are used.**  A file that is generated for a resource uses every package of the
framework that it imports, unless the import is written in the resource.  Where no type pair is made,
the package of base types may be unused, and that of types if all nodes at the top have custom types.
And for every bound node below a bound node at the top there are adapters with its external type. -/
theorem imported_packages_used {options : FileOptions} {resource : Resource} {file : GeneratedFile}
    (h : resource.generate options = .ok file) :
    ∃ tree, resource.build = .ok tree ∧ tree.Makes options file ∧
      (∀ p : Package, p.origin ∈ file.imports →
        p.origin ∈ resource.written ∨ tree.UsesPackage p ∨ tree.MayBeUnused file p) ∧
      ∀ child ∈ tree.nodes, child.2.isBound = true → ∀ (inner : Node) (object : NestedObject Node)
        (t : ExternalType), child.2.Reaches inner → inner.object? = some object →
          object.external = some t → t.Adapted file.adapters := by
  obtain ⟨tree, htree, hmakes⟩ := Resource.makes_of_generate h
  obtain ⟨schema, -, hrepresents⟩ := Resource.represented htree
  have hnodes {child : String × Node} (hchild : child ∈ tree.nodes) :=
    Resource.built_of_node htree hchild
  refine ⟨tree, htree, hmakes, fun p hmem => ?_, fun child hchild hbound inner object t hinner ho ht =>
    hmakes.adapted hchild hbound hinner ho ht⟩
  refine (hmakes.uses_imported hrepresents (fun child hchild => (hnodes hchild).1) hmem).imp_left ?_
  rintro ⟨node, ⟨child, hchild, hinner⟩, hwritten⟩
  exact (hnodes hchild).2 node hinner hwritten

/-- A resource with a bound object. -/
def sdkResource : Resource := { name := "server", schema := some { attributes := [sdkAttribute] } }

/-- The package of the default is used, and there are adapters with the type of the library. -/
theorem imported_packages_used_sdkResource :
    ∃ file tree, sdkResource.generate {} = .ok file ∧ sdkResource.build = .ok tree ∧
      tree.UsesPackage .int64default ∧ sdkType.Adapted file.adapters := by
  have hobject : NestedObject.build "server" [sdkAttribute] [] = .ok _ :=
    (NestedObject.build_eq _ _ _).trans rfl
  obtain ⟨tree, hbuild, hnodes⟩ : ∃ tree, sdkResource.build = .ok tree ∧
      tree.nodes = [("limit", limitNode)] := by
    simp only [sdkResource, Resource.build, hobject]
    exact ⟨_, rfl, rfl⟩
  obtain ⟨file, hfile⟩ : ∃ file, tree.generate {} = .ok file := by
    have hadaptable : limitNode.Adaptable := ⟨rfl, rfl, rfl, rfl, .inl ⟨.int64, rfl⟩, trivial⟩
    obtain ⟨text, htext⟩ : ∃ text, limitNode.adapters "limit" = .ok text :=
      (Node.exists_adapters_iff rfl).mpr hadaptable
    have hall : tree.nodes.mapM (fun child => child.2.adapters child.1) = .ok [text] := by
      rw [hnodes]
      exact mapM_eq_ok.mpr (.cons htext .nil)
    exact ResourceTree.exists_generate (bind_eq_ok.mpr ⟨_, hall, rfl⟩) {}
  have hgenerate : sdkResource.generate {} = .ok file := bind_eq_ok.mpr ⟨tree, hbuild, hfile⟩
  obtain ⟨tree', hbuild', hmakes, hused, hadapted⟩ := imported_packages_used hgenerate
  obtain rfl : tree = tree' := Except.ok.inj (hbuild.symm.trans hbuild')
  have hchild : ("limit", limitNode) ∈ tree.nodes := hnodes ▸ List.mem_cons_self
  have hdefault : Package.int64default.origin ∈ file.imports := by
    have hcount : limitNode.Reaches countNode := .head List.mem_cons_self (.refl _)
    exact hmakes.needed_mem ⟨_, hchild, hcount⟩ (.default rfl rfl)
  refine ⟨file, tree, hgenerate, hbuild, ?_, hadapted _ hchild rfl _ _ _ (.refl _) rfl rfl⟩
  rcases hused .int64default hdefault with hwritten | huses | ⟨-, hnot | ⟨hnot, -⟩⟩
  · exact absurd hwritten (by decide)
  · exact huses
  · cases hnot
  · cases hnot

/-- An object with a custom type, and a flag in it without one. -/
def overriddenAttribute : Attribute :=
  .mk "a" (.single { mode := .optional, customType := some { type := "c.T\x7b\x7d", valueType := "c.V" } }
    none [.mk "b" (.leaf (.bool { mode := .optional }))])

def overriddenFlag : Node :=
  .scalar .bool
    { mode := some .optional, planModifiers := ⟨.scalar .bool, []⟩, validators := ⟨.scalar .bool, []⟩ }

def overriddenNode : Node :=
  .nested .singleAttribute
    { mode := some .optional, planModifiers := ⟨.object, []⟩, validators := ⟨.object, []⟩ }
    { customType := some { type := "c.T\x7b\x7d", valueType := "c.V" }
      attributes := [("b", overriddenFlag)] }

def overriddenResource : Resource :=
  { name := "r", schema := some { attributes := [overriddenAttribute] } }

/-- No schema in the tree of the object needs a package. -/
theorem not_schemaNeeds_overriddenNode {inner : Node} (h : overriddenNode.Reaches inner) :
    ¬ inner.SchemaNeeds p := by
  intro hneeds
  rcases Node.reaches_iff.mp h with rfl | ⟨child, hchild, hinner⟩
  · cases hneeds with
    | objectType owned plain => cases owned; cases plain
    | default given => cases given
    | elementType eq | attributeTypes eq => cases eq
  · obtain rfl : child = ("b", overriddenFlag) := List.mem_singleton.mp hchild
    rcases Node.reaches_iff.mp hinner with rfl | ⟨_, hnone, -⟩
    · cases hneeds with
      | objectType owned => cases owned
      | default given => cases given
      | elementType eq | attributeTypes eq => cases eq
    · exact absurd hnone List.not_mem_nil

/-- The package of types is imported for the flag, and nothing uses it: the flag is neither in the
model nor in a pair of types. -/
theorem unused_types_overriddenResource :
    ∃ file tree, overriddenResource.generate {} = .ok file ∧ overriddenResource.build = .ok tree ∧
      Package.types.origin ∈ file.imports ∧ Package.types.origin ∉ overriddenResource.written ∧
      ¬ tree.UsesPackage .types := by
  have hobject : NestedObject.build "r" [overriddenAttribute] [] = .ok _ :=
    (NestedObject.build_eq _ _ _).trans rfl
  obtain ⟨tree, hbuild, hattributes, hblocks, hnodes⟩ : ∃ tree, overriddenResource.build = .ok tree ∧
      tree.attributes = [("a", overriddenNode)] ∧ tree.blocks = [] ∧
        tree.nodes = [("a", overriddenNode)] := by
    simp only [overriddenResource, Resource.build, hobject]
    exact ⟨_, rfl, rfl, rfl, rfl⟩
  have hunbound : ∀ child ∈ tree.nodes, child.2.isBound = false := by simp [hnodes]; rfl
  obtain ⟨file, hfile, hmakes, -⟩ := ResourceTree.exists_generate_of_unbound {} hunbound
  have himported : Package.types.origin ∈ file.imports := by
    have hflag : overriddenNode.Reaches overriddenFlag := .head List.mem_cons_self (.refl _)
    have hreaches : tree.Reaches overriddenFlag := ⟨_, hnodes ▸ List.mem_cons_self, hflag⟩
    exact hmakes.needed_mem hreaches (.values rfl rfl)
  have hschema : tree.schemaSource.Within (· ≠ .types) := by
    refine ResourceTree.within_schemaSource ⟨by decide, by decide, by decide⟩ (by decide) ?_
    intro child hchild inner hinner p hneeds
    rw [hattributes, hblocks] at hchild
    obtain rfl := List.mem_singleton.mp (hchild.resolve_right List.not_mem_nil)
    exact absurd hneeds (not_schemaNeeds_overriddenNode hinner)
  have hmodel : tree.modelSource.Within (· ≠ .types) := by
    refine ResourceTree.within_modelSource fun child hchild hplain => ?_
    rw [hnodes] at hchild
    obtain rfl := List.mem_singleton.mp hchild
    cases hplain
  have hpairs : tree.typePairsSource = [] := by
    rw [ResourceTree.typePairsSource, hnodes]
    rfl
  have hadapters : tree.adaptersSource = [] := by
    rw [ResourceTree.adaptersSource, hnodes]
    rfl
  refine ⟨file, tree, bind_eq_ok.mpr ⟨tree, hbuild, hfile⟩, hbuild, himported, by decide, ?_⟩
  rintro ⟨source, hsource, huses⟩
  suffices source.Within (· ≠ .types) from this.uses huses rfl
  simp only [ResourceTree.sections, hpairs, hadapters, List.mem_cons, List.not_mem_nil, or_false] at hsource
  rcases hsource with rfl | rfl | rfl | rfl
  · exact hschema
  · exact hmodel
  · exact Source.within_nil
  · exact Source.within_nil

/-- A bound object in one that is not bound. -/
def outerAttribute : Attribute := .mk "outer" (.single { mode := .optional } none [sdkAttribute])

def outerResource : Resource :=
  { name := "server", schema := some { attributes := [outerAttribute] } }

/-- The library of the bound object is imported, and there are no adapters. -/
theorem unadapted_import_outerResource :
    ∃ file, outerResource.generate {} = .ok file ∧
      { path := "example.com/sdk" } ∈ file.imports ∧ file.adapters = "" := by
  have hobject : NestedObject.build "server" [outerAttribute] [] = .ok _ :=
    (NestedObject.build_eq _ _ _).trans rfl
  obtain ⟨tree, hbuild, node, hnodes, hbound, hlimit⟩ : ∃ tree, outerResource.build = .ok tree ∧
      ∃ node, tree.nodes = [("outer", node)] ∧ node.isBound = false ∧
        ("limit", limitNode) ∈ node.children := by
    simp only [outerResource, Resource.build, hobject]
    exact ⟨_, rfl, _, rfl, rfl, List.mem_cons_self⟩
  have hunbound : ∀ child ∈ tree.nodes, child.2.isBound = false := by simp [hnodes, hbound]
  obtain ⟨file, hfile, hmakes, hadapters⟩ := ResourceTree.exists_generate_of_unbound {} hunbound
  refine ⟨file, bind_eq_ok.mpr ⟨tree, hbuild, hfile⟩, ?_, hadapters⟩
  have hreaches : tree.Reaches limitNode :=
    ⟨_, hnodes ▸ List.mem_cons_self, .head hlimit (.refl _)⟩
  exact hmakes.mem_imports.mpr (.inl ⟨limitNode, hreaches, .external rfl rfl ⟨_, rfl, rfl, .inr rfl⟩⟩)

end ProviderCode
