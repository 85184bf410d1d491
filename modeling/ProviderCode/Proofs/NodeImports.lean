import Mathlib.Logic.Relation
import ProviderCode.Node.Imports
import ProviderCode.Proofs.Preorder

/-!
# The imports of a tree

Each node brings imports by itself: those of the type of its values, of its element type or attribute
types, of its default, validators and plan modifiers, and, if it owns an object, those of the type,
extensions and external type of the object.

Main statement: the imports of a node are what the node and its descendants bring.
-/

namespace ProviderCode

/-! ### Nodes below a node -/

namespace Node

/-- The second node is a child of the first one, an attribute or a block of its object. -/
def Owns (parent child : Node) : Prop := ∃ name, (name, child) ∈ parent.children

/-- The second node is the first one or one of its descendants. -/
def Reaches : Node → Node → Prop := Relation.ReflTransGen Owns

theorem Reaches.refl (node : Node) : node.Reaches node := Relation.ReflTransGen.refl

theorem Reaches.head {parent inner : Node} {child : String × Node} (hchild : child ∈ parent.children)
    (h : child.2.Reaches inner) : parent.Reaches inner :=
  Relation.ReflTransGen.head ⟨child.1, hchild⟩ h

/-- What a node reaches is the node itself or reached by one of its children. -/
theorem reaches_iff {node inner : Node} :
    node.Reaches inner ↔ inner = node ∨ ∃ child ∈ node.children, child.2.Reaches inner := by
  constructor
  · intro h
    rcases Relation.ReflTransGen.cases_head h with rfl | ⟨child, ⟨name, hchild⟩, hinner⟩
    · exact .inl rfl
    · exact .inr ⟨(name, child), hchild, hinner⟩
  · rintro (rfl | ⟨child, hchild, hinner⟩)
    · exact .refl _
    · exact .head hchild hinner

/-- The nodes that a node reaches are those of its walk. -/
theorem reaches_iff_mem_walk {name : String} {node inner : Node} :
    node.Reaches inner ↔ ∃ key, (key, inner) ∈ node.walk name := by
  constructor
  · intro h
    induction h with
    | refl =>
      have hself : (name, node) ∈ node.walk name := by simp [walk_eq]
      exact ⟨name, hself⟩
    | tail _ hchild ih =>
      obtain ⟨key, hparent⟩ := ih
      obtain ⟨name, hchild⟩ := hchild
      exact ⟨name, walk_closed hparent hchild⟩
  · rintro ⟨key, h⟩
    rw [walk_eq, List.mem_cons] at h
    rcases h with hself | h
    · cases hself
      exact .refl _
    · obtain ⟨child, hchild, hin⟩ := mem_walkAll.mp h
      have hsmaller : child.2.size ≤ sizes node.children := size_le_sizes hchild
      have hsize := node.size_eq
      exact .head hchild (reaches_iff_mem_walk.mpr ⟨key, hin⟩)
termination_by node.size
decreasing_by omega

end Node

/-! ### Import sets by their members -/

/-- The import of a package under its own name. -/
def Package.origin (package : Package) : Import := { path := package.path }

theorem Import.hasPath_iff {i : Import} : i.hasPath = true ↔ i.path ≠ "" := by
  simp [hasPath]

theorem Package.path_ne_empty (package : Package) : package.path ≠ "" := by
  cases package <;> simp [Package.path]

theorem Package.hasPath_origin (package : Package) : package.origin.hasPath = true :=
  Import.hasPath_iff.mpr package.path_ne_empty

theorem Package.path_injective : Function.Injective Package.path := by
  intro p q h
  cases p <;> cases q <;> first | rfl | simp [Package.path] at h

theorem Package.origin_injective : Function.Injective Package.origin := fun _ _ h =>
  path_injective (congrArg Import.path h)

namespace Imports

variable {i : Import}

@[simp] theorem not_mem_nothing : i ∉ Imports.empty := List.not_mem_nil

@[simp] theorem mem_insertPackage {imports : Imports} {package : Package} :
    i ∈ imports.insertPackage package ↔ i = package.origin ∨ i ∈ imports :=
  mem_insert

theorem mem_ofOption {origin : Option Import} :
    i ∈ ofOption origin ↔ origin = some i ∧ i.hasPath = true := by
  simp [ofOption, Option.filter_eq_some_iff]

/-- What is collected from members one after the other. -/
theorem mem_foldl_union {α : Type} {f : α → Imports} {as : List α} {imports : Imports} :
    i ∈ as.foldl (fun imports a => imports ∪ f a) imports ↔ i ∈ imports ∨ ∃ a ∈ as, i ∈ f a := by
  induction as generalizing imports with
  | nil => simp
  | cons a as ih => simp [ih, or_assoc]

theorem containsPath_iff {imports : Imports} {path : String} :
    imports.containsPath path = true ↔ ∃ i ∈ imports, i.path = path := by
  simp [containsPath]

/-- A package that is imported under its own name is imported. -/
theorem containsPath_of_mem {imports : Imports} {package : Package} (h : package.origin ∈ imports) :
    imports.containsPath package.path = true :=
  containsPath_iff.mpr ⟨package.origin, h, rfl⟩

end Imports

/-! ### What facets bring -/

/-- The import of a custom type, or the package of the framework's types where none is given. -/
def CustomType.Brings : Option CustomType → Import → Prop
  | some custom, i => custom.origin = some i ∧ i.hasPath = true
  | none, i => i = Package.types.origin

theorem CustomType.mem_imports {custom : Option CustomType} {i : Import} :
    i ∈ CustomType.imports custom ↔ CustomType.Brings custom i := by
  cases custom with
  | some custom => exact Imports.mem_ofOption
  | none => simp [CustomType.imports, CustomType.Brings]

/-- An element type brings the imports of what is visible in it: nothing below a custom type is. -/
inductive ElementType.Brings : ElementType → Import → Prop
  | custom {type : ElementType} {custom : CustomType} {i : Import} (given : type.custom = some custom)
      (origin : custom.origin = some i) (path : i.hasPath = true) : type.Brings i
  | types {type : ElementType} (plain : type.custom = none) : type.Brings Package.types.origin
  | element {shape : Shape} {element : ElementType} {i : Import} (inner : element.Brings i) :
      ElementType.Brings (.collection shape none element) i
  | attr {attributes : List (String × ElementType)} :
      ElementType.Brings (.object none attributes) Package.attr.origin
  | entry {attributes : List (String × ElementType)} {named : String × ElementType} {i : Import}
      (mem : named ∈ attributes) (inner : named.2.Brings i) :
      ElementType.Brings (.object none attributes) i

namespace ElementType

theorem brings_custom {type : ElementType} {custom : CustomType} {i : Import}
    (h : type.custom = some custom) : type.Brings i ↔ custom.origin = some i ∧ i.hasPath = true := by
  constructor
  · intro hbrings
    cases hbrings with
    | custom given origin path =>
      cases h.symm.trans given
      exact ⟨origin, path⟩
    | types plain => cases h.symm.trans plain
    | element | attr | entry => cases h
  · rintro ⟨origin, path⟩
    exact .custom h origin path

theorem brings_scalar {type : Scalar} {i : Import} :
    Brings (.scalar type none) i ↔ i = Package.types.origin := by
  constructor
  · intro h
    cases h with
    | custom given => cases given
    | types => rfl
  · rintro rfl
    exact .types rfl

theorem brings_collection {shape : Shape} {element : ElementType} {i : Import} :
    Brings (.collection shape none element) i ↔ i = Package.types.origin ∨ element.Brings i := by
  constructor
  · intro h
    cases h with
    | custom given => cases given
    | types => exact .inl rfl
    | element inner => exact .inr inner
  · rintro (rfl | inner)
    · exact .types rfl
    · exact .element inner

theorem brings_object {attributes : List (String × ElementType)} {i : Import} :
    Brings (.object none attributes) i ↔ i = Package.attr.origin ∨ i = Package.types.origin ∨
      ∃ entry ∈ attributes, entry.2.Brings i := by
  constructor
  · intro h
    cases h with
    | custom given => cases given
    | types => exact .inr (.inl rfl)
    | attr => exact .inl rfl
    | entry mem inner => exact .inr (.inr ⟨_, mem, inner⟩)
  · rintro (rfl | rfl | ⟨named, mem, inner⟩)
    · exact .attr
    · exact .types rfl
    · exact .entry mem inner

mutual

theorem mem_imports {i : Import} : ∀ {type : ElementType}, i ∈ type.imports ↔ type.Brings i
  | .scalar _ (some _) | .collection _ (some _) _ | .object (some _) _ => by
    rw [imports, brings_custom rfl]
    exact Imports.mem_ofOption
  | .scalar _ none => by
    rw [imports, brings_scalar]
    simp
  | .collection _ none element => by
    have helement : i ∈ element.imports ↔ element.Brings i := mem_imports
    rw [imports, brings_collection, Imports.mem_insertPackage, helement]
  | .object none attributes => by
    rw [imports, brings_object, Imports.mem_insertPackage, Imports.mem_insertPackage,
      mem_importsOfAll]

theorem mem_importsOfAll {i : Import} : ∀ {types : List (String × ElementType)},
    i ∈ importsOfAll types ↔ ∃ entry ∈ types, entry.2.Brings i
  | [] => by simp [importsOfAll]
  | (_, type) :: rest => by
    have htype : i ∈ type.imports ↔ type.Brings i := mem_imports
    rw [importsOfAll, Imports.mem_union, htype, mem_importsOfAll]
    simp

end

end ElementType

/-- The types of an object attribute bring the package of attributes besides their own imports. -/
def AttributeTypes.Brings (types : List (String × ElementType)) (i : Import) : Prop :=
  i = Package.attr.origin ∨ ∃ entry ∈ types, entry.2.Brings i

theorem AttributeTypes.mem_imports {types : List (String × ElementType)} {i : Import} :
    i ∈ AttributeTypes.imports types ↔ AttributeTypes.Brings types i := by
  rw [AttributeTypes.imports, Imports.mem_insertPackage, ElementType.mem_importsOfAll,
    AttributeTypes.Brings]

/-- A definition with an import that names a package brings that import, and with it the package of
the framework that lists such definitions. -/
def Extensions.Brings (package : Package) (extensions : Extensions) (i : Import) : Prop :=
  ∃ d ∈ extensions.definitions, ∃ j ∈ d.imports, j.hasPath = true ∧ (i = package.origin ∨ i = j)

theorem Definition.hasImport_iff {d : Definition} :
    d.hasImport = true ↔ ∃ j ∈ d.imports, j.hasPath = true := by
  simp [hasImport]

theorem Definition.mem_namedImports {d : Definition} {i : Import} :
    i ∈ d.namedImports ↔ i ∈ d.imports ∧ i.hasPath = true := by
  simp [namedImports]

theorem Extensions.mem_imports {package : Package} {extensions : Extensions} {i : Import} :
    i ∈ extensions.imports package ↔ extensions.Brings package i := by
  have hfold : ∀ (ds : List Definition) (imports : Imports),
      i ∈ ds.foldl (fun imports d => (imports.insertPackage package).insertAll d.namedImports) imports
        ↔ i ∈ imports ∨ ∃ d ∈ ds, i = package.origin ∨ i ∈ d.namedImports := by
    intro ds
    induction ds with
    | nil => simp
    | cons d ds ih =>
      intro imports
      rw [List.foldl_cons, ih, Imports.mem_insertAll, Imports.mem_insertPackage]
      simp only [List.mem_cons, exists_eq_or_imp, or_assoc, or_left_comm]
  rw [Extensions.imports, hfold]
  simp only [Imports.not_mem_nothing, false_or, List.mem_filter, Definition.hasImport_iff,
    Definition.mem_namedImports, Extensions.Brings]
  constructor
  · rintro ⟨d, ⟨hd, j, hj, hpath⟩, rfl | ⟨hi, hipath⟩⟩
    · exact ⟨d, hd, j, hj, hpath, .inl rfl⟩
    · exact ⟨d, hd, i, hi, hipath, .inr rfl⟩
  · rintro ⟨d, hd, j, hj, hpath, rfl | rfl⟩
    · exact ⟨d, ⟨hd, j, hj, hpath⟩, .inl rfl⟩
    · exact ⟨d, ⟨hd, i, hj, hpath⟩, .inr ⟨hj, hpath⟩⟩

/-- A literal brings the package that makes defaults of it, an expression its own imports. -/
def DefaultValue.Brings : DefaultValue → Import → Prop
  | .bool _, i => i = Package.booldefault.origin
  | .float64 _, i => i = Package.float64default.origin
  | .int64 _, i => i = Package.int64default.origin
  | .string _, i => i = Package.stringdefault.origin
  | .custom d, i => i ∈ d.imports ∧ i.hasPath = true

theorem DefaultValue.mem_imports {d : DefaultValue} {i : Import} : i ∈ d.imports ↔ d.Brings i := by
  cases d with
  | custom d => simp [DefaultValue.imports, DefaultValue.Brings, Definition.mem_namedImports]
  | _ => simp [DefaultValue.imports, DefaultValue.Brings]

/-- An external type with an import that names a package brings it, and the framework's base types. -/
def ExternalType.Brings (t : ExternalType) (i : Import) : Prop :=
  ∃ j, t.origin = some j ∧ j.hasPath = true ∧ (i = Package.basetypes.origin ∨ i = j)

theorem ExternalType.mem_imports {t : ExternalType} {i : Import} : i ∈ t.imports ↔ t.Brings i := by
  unfold ExternalType.imports ExternalType.Brings
  split
  · next j hj =>
    obtain ⟨horigin, hpath⟩ := Option.filter_eq_some_iff.mp hj
    simp [horigin, hpath]
  · next hnone =>
    simp only [Imports.not_mem_nothing, false_iff]
    rintro ⟨j, horigin, hpath, -⟩
    simp [horigin, hpath] at hnone

/-! ### What nodes bring -/

/-- An import that a node brings by itself, without its children. -/
inductive Node.Brings (node : Node) (i : Import) : Prop
  /-- Single objects have no values of their own: their type is that of the object. -/
  | values (collective : node.kind.isSingle = false) (h : CustomType.Brings node.facets.customType i)
  | elementType {shape : Shape} {f : NodeFacets} {element : ElementType}
      (eq : node = .collection shape f element) (h : element.Brings i)
  | attributeTypes {f : NodeFacets} {types : List (String × ElementType)} (eq : node = .object f types)
      (h : AttributeTypes.Brings types i)
  | default {d : DefaultValue} (given : node.facets.default = some d) (h : d.Brings i)
  | planModifier (h : node.facets.planModifiers.Brings .planmodifier i)
  | validator (h : node.facets.validators.Brings .validator i)
  /-- The type that is generated for an object without a custom type is a map of attributes. -/
  | attr {object : NestedObject Node} (owned : node.object? = some object)
      (plain : object.customType = none) (h : i = Package.attr.origin)
  | objectType {object : NestedObject Node} (owned : node.object? = some object)
      (h : CustomType.Brings object.customType i)
  | objectPlanModifier {object : NestedObject Node} (owned : node.object? = some object)
      (h : object.planModifiers.Brings .planmodifier i)
  | objectValidator {object : NestedObject Node} (owned : node.object? = some object)
      (h : object.validators.Brings .validator i)
  | external {object : NestedObject Node} {t : ExternalType} (owned : node.object? = some object)
      (bound : object.external = some t) (h : t.Brings i)

namespace Node

variable {node : Node} {i : Import}

theorem mem_valueImports : i ∈ node.valueImports ↔
    (node.kind.isSingle = false ∧ CustomType.Brings node.facets.customType i) ∨
    (∃ shape f element, node = .collection shape f element ∧ element.Brings i) ∨
    ∃ f types, node = .object f types ∧ AttributeTypes.Brings types i := by
  cases node with
  | scalar type f =>
    simp [valueImports, CustomType.mem_imports, kind, NodeKind.isSingle, facets]
  | collection shape f element =>
    simp [valueImports, CustomType.mem_imports, ElementType.mem_imports, kind, NodeKind.isSingle,
      facets, and_assoc]
  | object f types =>
    simp [valueImports, CustomType.mem_imports, AttributeTypes.mem_imports, kind, NodeKind.isSingle,
      facets, and_assoc]
  | nested nestedKind f object =>
    by_cases hsingle : nestedKind.isSingle = true
    · simp [valueImports, hsingle, kind, NodeKind.isSingle]
    · simp [valueImports, hsingle, CustomType.mem_imports, kind, NodeKind.isSingle, facets]

theorem mem_facetImports {f : NodeFacets} : i ∈ f.imports ↔
    (∃ d, f.default = some d ∧ d.Brings i) ∨ f.planModifiers.Brings .planmodifier i ∨
      f.validators.Brings .validator i := by
  have hdefault : i ∈ (f.default.map DefaultValue.imports).getD ∅ ↔
      ∃ d, f.default = some d ∧ d.Brings i := by
    cases f.default with
    | none => simp
    | some d => simp [DefaultValue.mem_imports]
  simp only [NodeFacets.imports, Imports.mem_union, hdefault, Extensions.planModifiersImports,
    Extensions.validatorsImports, Extensions.mem_imports, or_assoc]

theorem mem_objectImports {object : NestedObject Node} : i ∈ object.ownImports ↔
    (object.customType = none ∧ i = Package.attr.origin) ∨ CustomType.Brings object.customType i ∨
      object.planModifiers.Brings .planmodifier i ∨ object.validators.Brings .validator i ∨
      ∃ t, object.external = some t ∧ t.Brings i := by
  have hattr : (i ∈ if object.generatesType then Imports.empty.insertPackage .attr else ∅) ↔
      object.customType = none ∧ i = Package.attr.origin := by
    rw [NestedObject.generatesType]
    cases object.customType with
    | none => simp
    | some custom => simp
  have hexternal : i ∈ (object.external.map ExternalType.imports).getD ∅ ↔
      ∃ t, object.external = some t ∧ t.Brings i := by
    cases object.external with
    | none => simp
    | some t => simp [ExternalType.mem_imports]
  simp only [NestedObject.ownImports, Imports.mem_union, hattr, hexternal, CustomType.mem_imports,
    Extensions.planModifiersImports, Extensions.validatorsImports, Extensions.mem_imports, or_assoc]

/-- The imports of a node without those of its children are those that it brings. -/
theorem mem_ownImports : i ∈ node.ownImports ↔ node.Brings i := by
  have hobject : i ∈ (node.object?.map NestedObject.ownImports).getD ∅ ↔
      ∃ object, node.object? = some object ∧ i ∈ object.ownImports := by
    cases node.object? with
    | none => simp
    | some object => simp
  rw [ownImports, Imports.mem_union, Imports.mem_union, mem_valueImports, mem_facetImports, hobject]
  simp only [mem_objectImports]
  constructor
  · rintro (((⟨collective, h⟩ | ⟨shape, f, element, eq, h⟩ | ⟨f, types, eq, h⟩) |
      ⟨d, given, h⟩ | h | h) | ⟨object, owned, ⟨plain, h⟩ | h | h | h | ⟨t, bound, h⟩⟩)
    · exact .values collective h
    · exact .elementType eq h
    · exact .attributeTypes eq h
    · exact .default given h
    · exact .planModifier h
    · exact .validator h
    · exact .attr owned plain h
    · exact .objectType owned h
    · exact .objectPlanModifier owned h
    · exact .objectValidator owned h
    · exact .external owned bound h
  · intro h
    cases h with
    | values collective h => exact .inl (.inl (.inl ⟨collective, h⟩))
    | elementType eq h => exact .inl (.inl (.inr (.inl ⟨_, _, _, eq, h⟩)))
    | attributeTypes eq h => exact .inl (.inl (.inr (.inr ⟨_, _, eq, h⟩)))
    | default given h => exact .inl (.inr (.inl ⟨_, given, h⟩))
    | planModifier h => exact .inl (.inr (.inr (.inl h)))
    | validator h => exact .inl (.inr (.inr (.inr h)))
    | attr owned plain h => exact .inr ⟨_, owned, .inl ⟨plain, h⟩⟩
    | objectType owned h => exact .inr ⟨_, owned, .inr (.inl h)⟩
    | objectPlanModifier owned h => exact .inr ⟨_, owned, .inr (.inr (.inl h))⟩
    | objectValidator owned h => exact .inr ⟨_, owned, .inr (.inr (.inr (.inl h)))⟩
    | external owned bound h => exact .inr ⟨_, owned, .inr (.inr (.inr (.inr ⟨_, bound, h⟩)))⟩

/-- **The imports of a node** are those that the node and its descendants bring. -/
theorem mem_imports : i ∈ node.imports ↔ ∃ inner, node.Reaches inner ∧ inner.Brings i := by
  rw [imports, visit_eq, walkAll_cons, walkAll_nil, List.append_nil, Imports.mem_foldl_union]
  simp only [Imports.not_mem_empty, false_or, mem_ownImports]
  constructor
  · rintro ⟨⟨key, inner⟩, hinner, hbrings⟩
    exact ⟨inner, reaches_iff_mem_walk.mpr ⟨key, hinner⟩, hbrings⟩
  · rintro ⟨inner, hreaches, hbrings⟩
    obtain ⟨key, hinner⟩ := reaches_iff_mem_walk.mp hreaches
    exact ⟨(key, inner), hinner, hbrings⟩

end Node

end ProviderCode
