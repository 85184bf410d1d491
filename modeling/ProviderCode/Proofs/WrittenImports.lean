import ProviderCode.Proofs.Construction
import ProviderCode.Proofs.NodeImports
import ProviderCode.Proofs.Results
import ProviderCode.Resource.Tree

/-!
# Imports that a specification writes

Where the imports of a tree come from.  An import is written in a specification if it belongs to a
custom type, to an external type, or to the definition of a default, validator or plan modifier.

Main statement: the imports of a tree are what its nodes bring; those of a child are among those of
its parent, none has an empty path, and each is a package of the framework or written in the
specification that the tree is built from.
-/

namespace ProviderCode

/-! ### Imports that are written -/

def CustomType.written (custom : Option CustomType) : List Import :=
  (custom.bind CustomType.origin).toList

def ExternalType.written (external : Option ExternalType) : List Import :=
  (external.bind ExternalType.origin).toList

def Extension.written (list : List Extension) : List Import :=
  (list.filterMap Extension.custom).flatMap Definition.imports

/-- The imports of the expression, also if a literal takes precedence over it. -/
def Default.written {τ : Type} (d : Option (Default τ)) : List Import :=
  ((d.bind Default.custom).map Definition.imports).getD []

namespace ElementType

mutual

/-- The imports of custom types anywhere in an element type, also below another custom type. -/
def written : ElementType → List Import
  | .scalar _ custom => CustomType.written custom
  | .collection _ custom element => CustomType.written custom ++ element.written
  | .object custom attributes => CustomType.written custom ++ writtenInAll attributes
termination_by structural type => type

def writtenInAll : List (String × ElementType) → List Import
  | [] => []
  | (_, type) :: rest => type.written ++ writtenInAll rest
termination_by structural types => types

end

theorem mem_writtenInAll {types : List (String × ElementType)} {i : Import} :
    i ∈ writtenInAll types ↔ ∃ named ∈ types, i ∈ named.2.written := by
  induction types with
  | nil => simp [writtenInAll]
  | cons named rest ih => simp [writtenInAll, ih]

theorem entry_subset_written {custom : Option CustomType} {attributes : List (String × ElementType)}
    {named : String × ElementType} (h : named ∈ attributes) :
    named.2.written ⊆ (ElementType.object custom attributes).written := fun _ hi =>
  List.mem_append_right _ (mem_writtenInAll.mpr ⟨named, h, hi⟩)

theorem custom_subset_written (type : ElementType) :
    CustomType.written type.custom ⊆ type.written := by
  cases type with
  | scalar type custom => exact fun _ h => h
  | _ => exact List.subset_append_left _ _

end ElementType

def Facets.written (f : Facets) : List Import :=
  CustomType.written f.customType ++ Extension.written f.planModifiers ++
    Extension.written f.validators

def AttributeFacets.written {τ : Type} (f : AttributeFacets τ) : List Import :=
  f.toFacets.written ++ Default.written f.default

def ObjectFacets.written (f : ObjectFacets) : List Import :=
  CustomType.written f.customType ++ ExternalType.written f.external ++
    Extension.written f.planModifiers ++ Extension.written f.validators

def Leaf.written : Leaf → List Import
  | .bool f => f.written
  | .float64 f => f.written
  | .int64 f => f.written
  | .number f => f.written
  | .string f => f.written
  | .collection _ f element => f.written ++ (element.map ElementType.written).getD []
  | .object f attributes => f.written ++ (attributes.map ElementType.writtenInAll).getD []

mutual

/-- The imports that are written anywhere in an attribute. -/
def Attribute.written : Attribute → List Import
  | .mk _ (.leaf leaf) => leaf.written
  | .mk _ (.nested _ f none) => f.written
  | .mk _ (.nested _ f (some ⟨o, attributes⟩)) =>
    f.written ++ o.written ++ writtenInAttributes attributes
  | .mk _ (.single f external attributes) =>
    f.written ++ ExternalType.written external ++ writtenInAttributes attributes
termination_by structural a => a

def writtenInAttributes : List Attribute → List Import
  | [] => []
  | a :: as => a.written ++ writtenInAttributes as
termination_by structural as => as

end

mutual

/-- The imports that are written anywhere in a block. -/
def Block.written : Block → List Import
  | .mk _ (.nested _ f none) => f.toFacets.written
  | .mk _ (.nested _ f (some ⟨o, attributes, blocks⟩)) =>
    f.toFacets.written ++ o.written ++ writtenInAttributes attributes ++ writtenInBlocks blocks
  | .mk _ (.single f external attributes blocks) =>
    f.toFacets.written ++ ExternalType.written external ++ writtenInAttributes attributes ++
      writtenInBlocks blocks
termination_by structural b => b

def writtenInBlocks : List Block → List Import
  | [] => []
  | b :: bs => b.written ++ writtenInBlocks bs
termination_by structural bs => bs

end

/-- The imports that are written anywhere in a resource. -/
def Resource.written (resource : Resource) : List Import :=
  match resource.schema with
  | none => []
  | some schema => writtenInAttributes schema.attributes ++ writtenInBlocks schema.blocks

/-! ### Imports that are kept in a tree -/

def Extensions.written (extensions : Extensions) : List Import :=
  extensions.definitions.flatMap Definition.imports

def DefaultValue.written : DefaultValue → List Import
  | .custom d => d.imports
  | .bool _ | .float64 _ | .int64 _ | .string _ => []

def NodeFacets.written (f : NodeFacets) : List Import :=
  CustomType.written f.customType ++ (f.default.map DefaultValue.written).getD [] ++
    f.planModifiers.written ++ f.validators.written

def NestedObject.written (object : NestedObject Node) : List Import :=
  CustomType.written object.customType ++ ExternalType.written object.external ++
    object.planModifiers.written ++ object.validators.written

theorem Extensions.written_ofList (kind : ValueKind) (list : List Extension) :
    (Extensions.ofList kind list).written = Extension.written list := rfl

/-- The imports that are written in the facets of a node, without those of its children. -/
def Node.written : Node → List Import
  | .scalar _ f => f.written
  | .collection _ f element => f.written ++ element.written
  | .object f types => f.written ++ ElementType.writtenInAll types
  | .nested _ f body => f.written ++ body.written

theorem Node.facets_written_subset (node : Node) : node.facets.written ⊆ node.written := by
  cases node with
  | scalar type f => exact fun _ h => h
  | _ => exact List.subset_append_left _ _

theorem Node.object_written_subset {node : Node} {object : NestedObject Node}
    (h : node.object? = some object) : object.written ⊆ node.written := by
  cases node with
  | nested kind f body =>
    cases h
    exact List.subset_append_right _ _
  | _ => cases h

/-! ### What is brought is written, or a package of the framework -/

/-- The packages of the framework that nodes bring. -/
def Package.ofNodes : List Package :=
  [.attr, .types, .basetypes, .planmodifier, .validator, .booldefault, .float64default,
    .int64default, .stringdefault]

/-- An import with a path that is a package of the framework, or else written in a list. -/
structure Import.From (i : Import) (written : List Import) : Prop where
  path : i.hasPath = true
  source : (∃ package ∈ Package.ofNodes, i = package.origin) ∨ i ∈ written

namespace Import.From

variable {i : Import} {written : List Import}

theorem package {p : Package} (hp : p ∈ Package.ofNodes) : p.origin.From written :=
  ⟨p.hasPath_origin, .inl ⟨p, hp, rfl⟩⟩

theorem mono {more : List Import} (h : i.From written) (hsub : written ⊆ more) : i.From more :=
  ⟨h.path, h.source.imp_right fun hi => hsub hi⟩

end Import.From

theorem CustomType.Brings.from_written {custom : Option CustomType} {i : Import}
    (h : CustomType.Brings custom i) : i.From (CustomType.written custom) := by
  cases custom with
  | none =>
    obtain rfl : i = Package.types.origin := h
    exact .package (by decide)
  | some custom =>
    obtain ⟨horigin, hpath⟩ := h
    exact ⟨hpath, .inr (by simp [CustomType.written, horigin])⟩

theorem ElementType.Brings.from_written {type : ElementType} {i : Import} (h : type.Brings i) :
    i.From type.written := by
  induction h with
  | @custom type custom i given origin path =>
    have hi : i ∈ CustomType.written type.custom := by simp [CustomType.written, given, origin]
    exact ⟨path, .inr (type.custom_subset_written hi)⟩
  | types => exact .package (by decide)
  | element _ ih => exact ih.mono (List.subset_append_right _ _)
  | attr => exact .package (by decide)
  | entry mem _ ih => exact ih.mono (ElementType.entry_subset_written mem)

theorem Extensions.Brings.from_written {package : Package} {extensions : Extensions} {i : Import}
    (hpackage : package ∈ Package.ofNodes) (h : extensions.Brings package i) :
    i.From extensions.written := by
  obtain ⟨d, hd, j, hj, hpath, rfl | rfl⟩ := h
  · exact .package hpackage
  · exact ⟨hpath, .inr (List.mem_flatMap.mpr ⟨d, hd, hj⟩)⟩

theorem DefaultValue.Brings.from_written {d : DefaultValue} {i : Import} (h : d.Brings i) :
    i.From d.written := by
  cases d with
  | custom d => exact ⟨h.2, .inr h.1⟩
  | _ =>
    cases h
    exact .package (by decide)

theorem ExternalType.Brings.from_written {t : ExternalType} {i : Import} (h : t.Brings i) :
    i.From (ExternalType.written (some t)) := by
  obtain ⟨j, horigin, hpath, rfl | rfl⟩ := h
  · exact .package (by decide)
  · exact ⟨hpath, .inr (by simp [ExternalType.written, horigin])⟩

namespace NodeFacets

variable {f : NodeFacets}

theorem customType_subset : CustomType.written f.customType ⊆ f.written := fun i hi => by
  simp [NodeFacets.written, hi]

theorem default_subset {d : DefaultValue} (h : f.default = some d) : d.written ⊆ f.written :=
  fun i hi => by simp [NodeFacets.written, h, hi]

theorem planModifiers_subset : f.planModifiers.written ⊆ f.written := fun i hi => by
  simp [NodeFacets.written, hi]

theorem validators_subset : f.validators.written ⊆ f.written := fun i hi => by
  simp [NodeFacets.written, hi]

end NodeFacets

namespace NestedObject

variable {object : NestedObject Node}

theorem customType_subset : CustomType.written object.customType ⊆ object.written := fun i hi => by
  simp [NestedObject.written, hi]

theorem external_subset : ExternalType.written object.external ⊆ object.written := fun i hi => by
  simp [NestedObject.written, hi]

theorem planModifiers_subset : object.planModifiers.written ⊆ object.written := fun i hi => by
  simp [NestedObject.written, hi]

theorem validators_subset : object.validators.written ⊆ object.written := fun i hi => by
  simp [NestedObject.written, hi]

end NestedObject

/-- **What a node brings** has a path, and is a package of the framework or written in the facets of
the node. -/
theorem Node.Brings.from_written {node : Node} {i : Import} (h : node.Brings i) :
    i.From node.written := by
  have hfacets {list : List Import} (hsub : list ⊆ node.facets.written) : list ⊆ node.written :=
    fun j hj => node.facets_written_subset (hsub hj)
  have hobject {list : List Import} {object : NestedObject Node} (howned : node.object? = some object)
      (hsub : list ⊆ object.written) : list ⊆ node.written := fun j hj =>
    Node.object_written_subset howned (hsub hj)
  cases h with
  | values _ h => exact h.from_written.mono (hfacets NodeFacets.customType_subset)
  | elementType eq h =>
    subst eq
    exact h.from_written.mono (List.subset_append_right _ _)
  | attributeTypes eq h =>
    subst eq
    rcases h with rfl | ⟨named, hnamed, h⟩
    · exact .package (by decide)
    · refine h.from_written.mono fun j hj => List.mem_append_right _ ?_
      exact ElementType.mem_writtenInAll.mpr ⟨named, hnamed, hj⟩
  | default given h => exact h.from_written.mono (hfacets (NodeFacets.default_subset given))
  | planModifier h =>
    exact (h.from_written (by decide)).mono (hfacets NodeFacets.planModifiers_subset)
  | validator h => exact (h.from_written (by decide)).mono (hfacets NodeFacets.validators_subset)
  | attr _ _ h =>
    subst h
    exact .package (by decide)
  | objectType owned h =>
    exact h.from_written.mono (hobject owned NestedObject.customType_subset)
  | objectPlanModifier owned h =>
    exact (h.from_written (by decide)).mono (hobject owned NestedObject.planModifiers_subset)
  | objectValidator owned h =>
    exact (h.from_written (by decide)).mono (hobject owned NestedObject.validators_subset)
  | external owned bound h =>
    refine h.from_written.mono (hobject owned ?_)
    rw [← bound]
    exact NestedObject.external_subset

/-! ### Trees that are built keep what is written -/

/-- In the tree of a node nothing is written that is not in a list. -/
def Node.WritesIn (node : Node) (list : List Import) : Prop :=
  ∀ inner, node.Reaches inner → inner.written ⊆ list

namespace Node.WritesIn

variable {node : Node} {list more : List Import}

theorem mono (h : node.WritesIn list) (hsub : list ⊆ more) : node.WritesIn more :=
  fun inner hinner _ hi => hsub (h inner hinner hi)

theorem of_children (hnode : node.written ⊆ list)
    (hchildren : ∀ child ∈ node.children, child.2.WritesIn list) : node.WritesIn list := by
  intro inner hinner
  rcases reaches_iff.mp hinner with rfl | ⟨child, hchild, hinner⟩
  · exact hnode
  · exact hchildren child hchild inner hinner

/-- An object that gets its children writes what it wrote before, and what they write. -/
theorem nested {kind : NestedKind} {f : NodeFacets} {object : NestedObject Node}
    {as bs : Children Node} (hattributes : object.attributes = []) (hblocks : object.blocks = [])
    (hfacets : f.written ⊆ list) (hobject : object.written ⊆ list)
    (has : ∀ child ∈ as, child.2.WritesIn list) (hbs : ∀ child ∈ bs, child.2.WritesIn list) :
    (Node.nested kind f (object.withChildren as bs)).WritesIn list := by
  refine of_children (List.append_subset.mpr ⟨hfacets, hobject⟩) fun child hchild => ?_
  have hmem : child ∈ Children.merge object.attributes as ++ Children.merge object.blocks bs := hchild
  rw [hattributes, hblocks] at hmem
  rcases List.mem_append.mp hmem with hmem | hmem
  · exact has child ((Children.mem_merge hmem).resolve_left List.not_mem_nil)
  · exact hbs child ((Children.mem_merge hmem).resolve_left List.not_mem_nil)

/-- What the imports of a tree are, if nothing else is written in it. -/
theorem imports_from (h : node.WritesIn list) {i : Import} (hi : i ∈ node.imports) : i.From list := by
  obtain ⟨inner, hinner, hbrings⟩ := mem_imports.mp hi
  exact hbrings.from_written.mono (h inner hinner)

end Node.WritesIn

theorem DefaultValue.written_choose {τ : Type} {literal : τ → DefaultValue}
    (hliteral : ∀ a, (literal a).written = []) (d : Option (Default τ)) :
    ((d.bind (Default.choose literal)).map DefaultValue.written).getD [] ⊆ Default.written d := by
  cases d with
  | none => exact fun _ h => h
  | some d =>
    rw [Option.bind_some, Default.choose]
    cases d.literal with
    | some a => simp [hliteral]
    | none =>
      simp only [Default.written, Option.bind_some]
      cases d.custom <;> exact fun _ h => h

theorem NodeFacets.written_ofAttribute {τ : Type} {kind : NodeKind} {literal : τ → DefaultValue}
    (hliteral : ∀ a, (literal a).written = []) (f : AttributeFacets τ) :
    (NodeFacets.ofAttribute kind literal f).written ⊆ f.written := by
  intro i hi
  have hdefault := @DefaultValue.written_choose τ literal hliteral f.default i
  simp only [NodeFacets.written, ofAttribute, List.mem_append] at hi
  simp only [AttributeFacets.written, Facets.written, List.mem_append]
  rcases hi with ((hi | hi) | hi) | hi
  · exact .inl (.inl (.inl hi))
  · exact .inr (hdefault hi)
  · exact .inl (.inl (.inr hi))
  · exact .inl (.inr hi)

theorem NodeFacets.written_ofBlock {kind : NodeKind} (f : BlockFacets) :
    (NodeFacets.ofBlock kind f).written ⊆ f.toFacets.written := by
  intro i hi
  have hmem : (i ∈ CustomType.written f.customType ∨ i ∈ Extension.written f.planModifiers) ∨
      i ∈ Extension.written f.validators := by
    simpa only [NodeFacets.written, ofBlock, Extensions.written_ofList, Option.map_none,
      Option.getD_none, List.append_nil, List.mem_append] using hi
  simpa only [Facets.written, List.mem_append] using hmem

/-- Without the custom type there is less. -/
theorem NodeFacets.written_withoutCustomType (f : NodeFacets) :
    { f with customType := none }.written ⊆ f.written := by
  intro i hi
  have hmem : (i ∈ (f.default.map DefaultValue.written).getD [] ∨ i ∈ f.planModifiers.written) ∨
      i ∈ f.validators.written := by
    simpa only [NodeFacets.written, CustomType.written, Option.bind_none, Option.toList_none,
      List.nil_append, List.mem_append] using hi
  simp only [NodeFacets.written, List.mem_append]
  exact hmem.imp_left fun h => h.imp_left .inr

theorem Facets.customType_subset (f : Facets) : CustomType.written f.customType ⊆ f.written :=
  fun i hi => by simp [Facets.written, hi]

/-- The object of a single node has its custom type and its external type. -/
theorem NestedObject.written_single (external : Option ExternalType) (custom : Option CustomType) :
    ((({} : NestedObject Node).withExternal external).withCustomType custom).written =
      CustomType.written custom ++ ExternalType.written external := by
  simp [NestedObject.written, withExternal, withCustomType, Extensions.written]

theorem Leaf.writesIn_build {name : String} {leaf : Leaf} {node : Node}
    (h : leaf.build name = .ok node) : node.WritesIn leaf.written := by
  have hnever : ∀ a : Empty, DefaultValue.written (Empty.elim a) = [] := fun a => a.elim
  cases leaf with
  | bool f =>
    cases h
    exact .of_children (NodeFacets.written_ofAttribute (fun _ => rfl) f) fun _ hc => nomatch hc
  | float64 f =>
    cases h
    exact .of_children (NodeFacets.written_ofAttribute (fun _ => rfl) f) fun _ hc => nomatch hc
  | int64 f =>
    cases h
    exact .of_children (NodeFacets.written_ofAttribute (fun _ => rfl) f) fun _ hc => nomatch hc
  | number f =>
    cases h
    exact .of_children (NodeFacets.written_ofAttribute hnever f) fun _ hc => nomatch hc
  | string f =>
    cases h
    exact .of_children (NodeFacets.written_ofAttribute (fun _ => rfl) f) fun _ hc => nomatch hc
  | collection shape f element =>
    cases element with
    | none => cases h
    | some element =>
      cases h
      have hfacets : (NodeFacets.ofAttribute (.collection shape) Empty.elim f).written ⊆ f.written :=
        NodeFacets.written_ofAttribute hnever f
      refine .of_children (List.append_subset.mpr ⟨fun i hi => ?_, fun i hi => ?_⟩) fun _ hc => nomatch hc
      · exact List.mem_append_left _ (hfacets hi)
      · exact List.mem_append_right _ hi
  | object f attributes =>
    cases attributes with
    | none => cases h
    | some attributes =>
      cases h
      have hfacets : (NodeFacets.ofAttribute .object Empty.elim f).written ⊆ f.written :=
        NodeFacets.written_ofAttribute hnever f
      refine .of_children (List.append_subset.mpr ⟨fun i hi => ?_, fun i hi => ?_⟩) fun _ hc => nomatch hc
      · exact List.mem_append_left _ (hfacets hi)
      · -- the attributes of the node are those that are given, in order
        obtain ⟨named, hnamed, hi⟩ := ElementType.mem_writtenInAll.mp hi
        refine List.mem_append_right _ (ElementType.mem_writtenInAll.mpr ⟨named, ?_, hi⟩)
        exact List.mem_mergeSort.mp hnamed

mutual

theorem Attribute.writesIn_construct : ∀ {a : Attribute} {node : Node},
    a.construct = .ok node → node.WritesIn a.written
  | .mk _ (.leaf _), node, h => by
    rw [Attribute.written]
    exact Leaf.writesIn_build h
  | .mk _ (.nested _ _ none), _, h => by cases h
  | .mk _ (.nested shape f (some ⟨o, attributes⟩)), node, h => by
    obtain ⟨children, hchildren, hnode⟩ := bind_eq_ok.mp h
    cases hnode
    rw [Attribute.written]
    refine .nested rfl rfl (fun i hi => ?_) (fun i hi => ?_) (fun child hchild => ?_)
      fun _ hchild => absurd hchild List.not_mem_nil
    · have hf := NodeFacets.written_ofAttribute (fun a : Empty => a.elim) f hi
      exact List.mem_append_left _ (List.mem_append_left _ hf)
    · exact List.mem_append_left _ (List.mem_append_right _ hi)
    · exact (writesIn_constructAttributes hchildren child hchild).mono (List.subset_append_right _ _)
  | .mk _ (.single f external attributes), node, h => by
    obtain ⟨children, hchildren, hnode⟩ := bind_eq_ok.mp h
    cases hnode
    rw [Attribute.written]
    refine .nested rfl rfl (fun i hi => ?_) (fun i hi => ?_) (fun child hchild => ?_)
      fun _ hchild => absurd hchild List.not_mem_nil
    · have hf := NodeFacets.written_ofAttribute (fun a : Empty => a.elim) f
        (NodeFacets.written_withoutCustomType _ hi)
      exact List.mem_append_left _ (List.mem_append_left _ hf)
    · rw [NestedObject.written_single] at hi
      rcases List.mem_append.mp hi with hi | hi
      · have hf : i ∈ f.written := List.mem_append_left _ (f.customType_subset hi)
        exact List.mem_append_left _ (List.mem_append_left _ hf)
      · exact List.mem_append_left _ (List.mem_append_right _ hi)
    · exact (writesIn_constructAttributes hchildren child hchild).mono (List.subset_append_right _ _)

theorem writesIn_constructAttributes {owner : String} : ∀ {as : List Attribute}
    {earlier : List String} {children : Children Node},
    constructAttributes owner earlier as = .ok children →
    ∀ child ∈ children, child.2.WritesIn (writtenInAttributes as)
  | [], _, _, h => by
    cases h
    exact fun _ hchild => absurd hchild List.not_mem_nil
  | a :: as, earlier, children, h => by
    rw [constructAttributes] at h
    split at h
    · cases h
    · obtain ⟨node, hnode, h⟩ := bind_eq_ok.mp h
      obtain ⟨rest, hrest, h⟩ := bind_eq_ok.mp h
      cases h
      intro child hchild
      rw [writtenInAttributes]
      rcases List.mem_cons.mp hchild with rfl | hchild
      · exact (Attribute.writesIn_construct hnode).mono (List.subset_append_left _ _)
      · exact (writesIn_constructAttributes hrest child hchild).mono (List.subset_append_right _ _)

end

mutual

theorem Block.writesIn_construct : ∀ {b : Block} {node : Node},
    b.construct = .ok node → node.WritesIn b.written
  | .mk _ (.nested _ _ none), _, h => by cases h
  | .mk _ (.nested shape f (some ⟨o, attributes, blocks⟩)), node, h => by
    obtain ⟨as, has, h⟩ := bind_eq_ok.mp h
    obtain ⟨bs, hbs, hnode⟩ := bind_eq_ok.mp h
    cases hnode
    rw [Block.written]
    refine .nested rfl rfl (fun i hi => ?_) (fun i hi => ?_) (fun child hchild => ?_)
      fun child hchild => ?_
    · have hf := NodeFacets.written_ofBlock f hi
      exact List.mem_append_left _ (List.mem_append_left _ (List.mem_append_left _ hf))
    · exact List.mem_append_left _ (List.mem_append_left _ (List.mem_append_right _ hi))
    · refine (writesIn_constructAttributes has child hchild).mono fun i hi => ?_
      exact List.mem_append_left _ (List.mem_append_right _ hi)
    · exact (writesIn_constructBlocks hbs child hchild).mono (List.subset_append_right _ _)
  | .mk _ (.single f external attributes blocks), node, h => by
    obtain ⟨as, has, h⟩ := bind_eq_ok.mp h
    obtain ⟨bs, hbs, hnode⟩ := bind_eq_ok.mp h
    cases hnode
    rw [Block.written]
    refine .nested rfl rfl (fun i hi => ?_) (fun i hi => ?_) (fun child hchild => ?_)
      fun child hchild => ?_
    · have hf := NodeFacets.written_ofBlock f (NodeFacets.written_withoutCustomType _ hi)
      exact List.mem_append_left _ (List.mem_append_left _ (List.mem_append_left _ hf))
    · rw [NestedObject.written_single] at hi
      rcases List.mem_append.mp hi with hi | hi
      · have hf := f.toFacets.customType_subset hi
        exact List.mem_append_left _ (List.mem_append_left _ (List.mem_append_left _ hf))
      · exact List.mem_append_left _ (List.mem_append_left _ (List.mem_append_right _ hi))
    · refine (writesIn_constructAttributes has child hchild).mono fun i hi => ?_
      exact List.mem_append_left _ (List.mem_append_right _ hi)
    · exact (writesIn_constructBlocks hbs child hchild).mono (List.subset_append_right _ _)

theorem writesIn_constructBlocks {owner : String} : ∀ {bs : List Block} {earlier : List String}
    {children : Children Node}, constructBlocks owner earlier bs = .ok children →
    ∀ child ∈ children, child.2.WritesIn (writtenInBlocks bs)
  | [], _, _, h => by
    cases h
    exact fun _ hchild => absurd hchild List.not_mem_nil
  | b :: bs, earlier, children, h => by
    rw [constructBlocks] at h
    split at h
    · cases h
    · obtain ⟨node, hnode, h⟩ := bind_eq_ok.mp h
      obtain ⟨rest, hrest, h⟩ := bind_eq_ok.mp h
      cases h
      intro child hchild
      rw [writtenInBlocks]
      rcases List.mem_cons.mp hchild with rfl | hchild
      · exact (Block.writesIn_construct hnode).mono (List.subset_append_left _ _)
      · exact (writesIn_constructBlocks hrest child hchild).mono (List.subset_append_right _ _)

end

/-! ### The imports of a tree -/

/-- The imports of a child are among those of its parent. -/
theorem Node.imports_of_child {node : Node} {child : String × Node} (hchild : child ∈ node.children)
    {i : Import} (hi : i ∈ child.2.imports) : i ∈ node.imports := by
  obtain ⟨inner, hinner, hbrings⟩ := mem_imports.mp hi
  exact mem_imports.mpr ⟨inner, hinner.head hchild, hbrings⟩

/-- **The imports of a tree** are what its nodes bring, each by itself.  So those of a child are among
those of its parent, and none has an empty path.  Each one is a package of the framework or written
in the facets of some node, and so in the attribute or block that the tree is built from. -/
theorem imports_of_tree (node : Node) :
    (∀ i, i ∈ node.imports ↔ ∃ inner, node.Reaches inner ∧ inner.Brings i) ∧
    (∀ child ∈ node.children, ∀ i ∈ child.2.imports, i ∈ node.imports) ∧
    (∀ i ∈ node.imports, i.path ≠ "" ∧
      ((∃ package ∈ Package.ofNodes, i = package.origin) ∨
        ∃ inner, node.Reaches inner ∧ i ∈ inner.written)) ∧
    (∀ a : Attribute, a.build = .ok node → ∀ i ∈ node.imports, i.From a.written) ∧
    ∀ b : Block, b.build = .ok node → ∀ i ∈ node.imports, i.From b.written := by
  refine ⟨fun i => Node.mem_imports, fun child hchild i hi => Node.imports_of_child hchild hi,
    fun i hi => ?_, fun a ha i hi => ?_, fun b hb i hi => ?_⟩
  · obtain ⟨inner, hinner, hbrings⟩ := Node.mem_imports.mp hi
    have hfrom : i.From inner.written := hbrings.from_written
    exact ⟨Import.hasPath_iff.mp hfrom.path, hfrom.source.imp_right fun hw => ⟨inner, hinner, hw⟩⟩
  · rw [a.build_eq] at ha
    exact (Attribute.writesIn_construct ha).imports_from hi
  · rw [b.build_eq] at hb
    exact (Block.writesIn_construct hb).imports_from hi

/-- A type of another library. -/
def sdkType : ExternalType := { type := "*sdk.Limit", origin := some { path := "example.com/sdk" } }

/-- An object that is bound to the type, with a number in it. -/
def sdkAttribute : Attribute :=
  .mk "limit" (.single { mode := .optional } (some sdkType)
    [.mk "count" (.leaf (.int64 { mode := .computed, default := some { literal := some 3 } }))])

def countNode : Node :=
  .scalar .int64 {
    mode := some .computed
    default := some (.int64 3)
    planModifiers := ⟨.scalar .int64, []⟩
    validators := ⟨.scalar .int64, []⟩ }

def limitNode : Node :=
  .nested .singleAttribute
    { mode := some .optional, planModifiers := ⟨.object, []⟩, validators := ⟨.object, []⟩ }
    { external := some sdkType, attributes := [("count", countNode)] }

/-- A block with the object in it. -/
def sdkBlock : Block := .mk "rule" (.single {} none [sdkAttribute] [])

/-- The default of the number is imported with the object, and the library is written in the
attribute and in the block around it. -/
theorem imports_of_tree_limitNode :
    sdkAttribute.build = .ok limitNode ∧ ("count", countNode) ∈ limitNode.children ∧
      Package.int64default.origin ∈ limitNode.imports ∧
      Import.From { path := "example.com/sdk" } sdkAttribute.written ∧
      ∃ node, sdkBlock.build = .ok node ∧ ("limit", limitNode) ∈ node.children ∧
        Import.From { path := "example.com/sdk" } sdkBlock.written := by
  have hbuild : sdkAttribute.build = .ok limitNode := sdkAttribute.build_eq.trans rfl
  obtain ⟨node, hblock, hlimit⟩ :
      ∃ node, sdkBlock.build = .ok node ∧ ("limit", limitNode) ∈ node.children :=
    ⟨_, sdkBlock.build_eq.trans rfl, List.mem_singleton.mpr rfl⟩
  have hchild : ("count", countNode) ∈ limitNode.children := List.mem_cons_self
  obtain ⟨himports, hchildren, -, hwritten, -⟩ := imports_of_tree limitNode
  have hdefault : Package.int64default.origin ∈ countNode.imports :=
    ((imports_of_tree countNode).1 _).mpr ⟨countNode, .refl _, .default rfl rfl⟩
  have hsdk : { path := "example.com/sdk" } ∈ limitNode.imports :=
    (himports _).mpr ⟨limitNode, .refl _, .external rfl rfl ⟨_, rfl, rfl, .inr rfl⟩⟩
  obtain ⟨-, hchildren', -, -, hwritten'⟩ := imports_of_tree node
  exact ⟨hbuild, hchild, hchildren _ hchild _ hdefault, hwritten _ hbuild _ hsdk, node, hblock, hlimit,
    hwritten' _ hblock _ (hchildren' _ hlimit _ hsdk)⟩

end ProviderCode
