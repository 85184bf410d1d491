import ProviderCode.Proofs.WrittenImports

/-!
# Packages of the framework

The packages of the framework that a node needs: that of its default, those of its types, and those
of its lists of validators and plan modifiers.  A node brings the packages that it needs; any other
package that it brings is written in its facets.

Main statement: a list of validators or plan modifiers is written with a package of the framework
unless it is empty.  The package is imported if one of the definitions has an import, and for no
other reason; a definition without imports is code of the provider and does not ask for it.
-/

namespace ProviderCode

/-! ### What nodes need -/

/-- A package that the expression of an element type uses. -/
inductive ElementType.Needs : ElementType → Package → Prop
  | types {type : ElementType} (plain : type.custom = none) : type.Needs .types
  | element {shape : Shape} {element : ElementType} {p : Package} (inner : element.Needs p) :
      ElementType.Needs (.collection shape none element) p
  | attr {attributes : List (String × ElementType)} :
      ElementType.Needs (.object none attributes) .attr
  | entry {attributes : List (String × ElementType)} {named : String × ElementType} {p : Package}
      (mem : named ∈ attributes) (inner : named.2.Needs p) :
      ElementType.Needs (.object none attributes) p

/-- A package that the types of an object attribute use. -/
def AttributeTypes.Needs (types : List (String × ElementType)) (p : Package) : Prop :=
  p = .attr ∨ ∃ entry ∈ types, entry.2.Needs p

variable {p : Package}

theorem ElementType.Needs.types_or_attr {type : ElementType} (h : type.Needs p) :
    p = .types ∨ p = .attr := by
  induction h with
  | types => exact .inl rfl
  | attr => exact .inr rfl
  | element _ ih => exact ih
  | entry _ _ ih => exact ih

theorem AttributeTypes.Needs.types_or_attr {types : List (String × ElementType)}
    (h : AttributeTypes.Needs types p) : p = .types ∨ p = .attr := by
  rcases h with rfl | ⟨_, -, hneeds⟩
  · exact .inr rfl
  · exact hneeds.types_or_attr

/-- The package that makes a default of a literal. -/
def DefaultValue.package? : DefaultValue → Option Package
  | .bool _ => some .booldefault
  | .float64 _ => some .float64default
  | .int64 _ => some .int64default
  | .string _ => some .stringdefault
  | .custom _ => none

/-- Some definition of a list has an import that names a package. -/
def Extensions.HasImport (extensions : Extensions) : Prop :=
  ∃ d ∈ extensions.definitions, ∃ j ∈ d.imports, j.path ≠ ""

/-- An external type has an import that names a package. -/
def ExternalType.HasImport (t : ExternalType) : Prop := ∃ j, t.origin = some j ∧ j.path ≠ ""

namespace Node

/-- A list of validators or plan modifiers that a node or its object has, with the field of a schema
and the package of the framework that it is written with. -/
inductive Lists (node : Node) : (field : String) → Package → Extensions → Prop
  | planModifiers : node.Lists "PlanModifiers" .planmodifier node.facets.planModifiers
  | validators : node.Lists "Validators" .validator node.facets.validators
  | objectPlanModifiers {object : NestedObject Node} (owned : node.object? = some object) :
      node.Lists "PlanModifiers" .planmodifier object.planModifiers
  | objectValidators {object : NestedObject Node} (owned : node.object? = some object) :
      node.Lists "Validators" .validator object.validators

/-- A package of the framework that is imported for a node, without its children. -/
inductive Needs (node : Node) : Package → Prop
  | values (collective : node.kind.isSingle = false) (plain : node.facets.customType = none) :
      node.Needs .types
  | elementType {shape : Shape} {f : NodeFacets} {element : ElementType} {p : Package}
      (eq : node = .collection shape f element) (h : element.Needs p) : node.Needs p
  | attributeTypes {f : NodeFacets} {types : List (String × ElementType)} {p : Package}
      (eq : node = .object f types) (h : AttributeTypes.Needs types p) : node.Needs p
  | default {d : DefaultValue} {p : Package} (given : node.facets.default = some d)
      (h : d.package? = some p) : node.Needs p
  | list {field : String} {p : Package} {extensions : Extensions}
      (listed : node.Lists field p extensions) (h : extensions.HasImport) : node.Needs p
  | attr {object : NestedObject Node} (owned : node.object? = some object)
      (plain : object.customType = none) : node.Needs .attr
  | objectType {object : NestedObject Node} (owned : node.object? = some object)
      (plain : object.customType = none) : node.Needs .types
  | external {object : NestedObject Node} {t : ExternalType} (owned : node.object? = some object)
      (bound : object.external = some t) (h : t.HasImport) : node.Needs .basetypes

end Node

/-! ### What is needed is brought -/

theorem ElementType.Needs.brings {type : ElementType} (h : type.Needs p) : type.Brings p.origin := by
  induction h with
  | types plain => exact .types plain
  | element _ ih => exact .element ih
  | attr => exact .attr
  | entry mem _ ih => exact .entry mem ih

theorem AttributeTypes.Needs.brings {types : List (String × ElementType)}
    (h : AttributeTypes.Needs types p) : AttributeTypes.Brings types p.origin := by
  rcases h with rfl | ⟨named, hnamed, hneeds⟩
  · exact .inl rfl
  · exact .inr ⟨named, hnamed, hneeds.brings⟩

theorem DefaultValue.brings_of_package {d : DefaultValue} (h : d.package? = some p) :
    d.Brings p.origin := by
  cases d with
  | custom d => cases h
  | _ =>
    cases h
    rfl

theorem Extensions.HasImport.brings {extensions : Extensions} (h : extensions.HasImport)
    (package : Package) : extensions.Brings package package.origin := by
  obtain ⟨d, hd, j, hj, hpath⟩ := h
  exact ⟨d, hd, j, hj, Import.hasPath_iff.mpr hpath, .inl rfl⟩

/-- **A node brings what it needs.** -/
theorem Node.Needs.brings {node : Node} (h : node.Needs p) : node.Brings p.origin := by
  cases h with
  | values collective plain =>
    refine .values collective ?_
    rw [plain]
    rfl
  | elementType eq h => exact .elementType eq h.brings
  | attributeTypes eq h => exact .attributeTypes eq h.brings
  | default given h => exact .default given (DefaultValue.brings_of_package h)
  | list listed h =>
    cases listed with
    | planModifiers => exact .planModifier (h.brings _)
    | validators => exact .validator (h.brings _)
    | objectPlanModifiers owned => exact .objectPlanModifier owned (h.brings _)
    | objectValidators owned => exact .objectValidator owned (h.brings _)
  | attr owned plain => exact .attr owned plain rfl
  | objectType owned plain =>
    refine .objectType owned ?_
    rw [plain]
    rfl
  | external owned bound h =>
    obtain ⟨j, horigin, hpath⟩ := h
    exact .external owned bound ⟨j, horigin, Import.hasPath_iff.mpr hpath, .inl rfl⟩

/-! ### What is brought is needed or written -/

theorem CustomType.Brings.none_or_written {custom : Option CustomType}
    (h : CustomType.Brings custom p.origin) :
    (custom = none ∧ p = .types) ∨ p.origin ∈ CustomType.written custom := by
  cases custom with
  | none => exact .inl ⟨rfl, Package.origin_injective h⟩
  | some custom =>
    obtain ⟨horigin, -⟩ := h
    exact .inr (by simp [CustomType.written, horigin])

theorem ElementType.Brings.needs_or_written {type : ElementType} {i : Import} (h : type.Brings i)
    (hi : i = p.origin) : type.Needs p ∨ p.origin ∈ type.written := by
  induction h with
  | @custom type custom i given origin _ =>
    have hwritten : p.origin ∈ CustomType.written type.custom := by
      simp [CustomType.written, given, origin, hi]
    exact .inr (type.custom_subset_written hwritten)
  | types plain =>
    obtain rfl := Package.origin_injective hi
    exact .inl (.types plain)
  | element _ ih =>
    exact (ih hi).imp .element fun hwritten => List.mem_append_right _ hwritten
  | attr =>
    obtain rfl := Package.origin_injective hi
    exact .inl .attr
  | entry mem _ ih => exact (ih hi).imp (.entry mem) fun h => ElementType.entry_subset_written mem h

theorem AttributeTypes.Brings.needs_or_written {types : List (String × ElementType)}
    (h : AttributeTypes.Brings types p.origin) :
    AttributeTypes.Needs types p ∨ p.origin ∈ ElementType.writtenInAll types := by
  rcases h with heq | ⟨named, hnamed, hbrings⟩
  · exact .inl (.inl (Package.origin_injective heq))
  · refine (hbrings.needs_or_written rfl).imp (fun hneeds => .inr ⟨named, hnamed, hneeds⟩) fun hw => ?_
    exact ElementType.mem_writtenInAll.mpr ⟨named, hnamed, hw⟩

theorem DefaultValue.Brings.package_or_written {d : DefaultValue} (h : d.Brings p.origin) :
    d.package? = some p ∨ p.origin ∈ d.written := by
  cases d with
  | custom d => exact .inr h.1
  | _ =>
    obtain rfl := Package.origin_injective h
    exact .inl rfl

theorem Extensions.Brings.own_or_written {package : Package} {extensions : Extensions}
    (h : extensions.Brings package p.origin) :
    (p = package ∧ extensions.HasImport) ∨ p.origin ∈ extensions.written := by
  obtain ⟨d, hd, j, hj, hpath, heq | heq⟩ := h
  · exact .inl ⟨Package.origin_injective heq, d, hd, j, hj, Import.hasPath_iff.mp hpath⟩
  · exact .inr (List.mem_flatMap.mpr ⟨d, hd, heq ▸ hj⟩)

theorem ExternalType.Brings.basetypes_or_written {t : ExternalType} (h : t.Brings p.origin) :
    (p = .basetypes ∧ t.HasImport) ∨ p.origin ∈ ExternalType.written (some t) := by
  obtain ⟨j, horigin, hpath, heq | heq⟩ := h
  · exact .inl ⟨Package.origin_injective heq, j, horigin, Import.hasPath_iff.mp hpath⟩
  · exact .inr (by simp [ExternalType.written, horigin, heq])

/-- **A package that a node brings** is one that it needs or is written in its facets. -/
theorem Node.Brings.needs_or_written {node : Node} (h : node.Brings p.origin) :
    node.Needs p ∨ p.origin ∈ node.written := by
  have hfacets {list : List Import} (hsub : list ⊆ node.facets.written) (hp : p.origin ∈ list) :
      p.origin ∈ node.written := node.facets_written_subset (hsub hp)
  cases h with
  | values collective h =>
    rcases h.none_or_written with ⟨hplain, rfl⟩ | hwritten
    · exact .inl (.values collective hplain)
    · exact .inr (hfacets NodeFacets.customType_subset hwritten)
  | elementType eq h =>
    refine (h.needs_or_written rfl).imp (.elementType eq) fun hwritten => ?_
    subst eq
    exact List.mem_append_right _ hwritten
  | attributeTypes eq h =>
    refine h.needs_or_written.imp (.attributeTypes eq) fun hwritten => ?_
    subst eq
    exact List.mem_append_right _ hwritten
  | default given h =>
    exact h.package_or_written.imp (.default given) (hfacets (NodeFacets.default_subset given))
  | planModifier h =>
    rcases h.own_or_written with ⟨rfl, himport⟩ | hwritten
    · exact .inl (.list .planModifiers himport)
    · exact .inr (hfacets NodeFacets.planModifiers_subset hwritten)
  | validator h =>
    rcases h.own_or_written with ⟨rfl, himport⟩ | hwritten
    · exact .inl (.list .validators himport)
    · exact .inr (hfacets NodeFacets.validators_subset hwritten)
  | attr owned plain h =>
    obtain rfl := Package.origin_injective h
    exact .inl (.attr owned plain)
  | objectType owned h =>
    rcases h.none_or_written with ⟨hplain, rfl⟩ | hwritten
    · exact .inl (.objectType owned hplain)
    · exact .inr (Node.object_written_subset owned (NestedObject.customType_subset hwritten))
  | objectPlanModifier owned h =>
    rcases h.own_or_written with ⟨rfl, himport⟩ | hwritten
    · exact .inl (.list (.objectPlanModifiers owned) himport)
    · exact .inr (Node.object_written_subset owned (NestedObject.planModifiers_subset hwritten))
  | objectValidator owned h =>
    rcases h.own_or_written with ⟨rfl, himport⟩ | hwritten
    · exact .inl (.list (.objectValidators owned) himport)
    · exact .inr (Node.object_written_subset owned (NestedObject.validators_subset hwritten))
  | external owned bound h =>
    rcases h.basetypes_or_written with ⟨rfl, himport⟩ | hwritten
    · exact .inl (.external owned bound himport)
    · rw [← bound] at hwritten
      exact .inr (Node.object_written_subset owned (NestedObject.external_subset hwritten))

/-! ### Lists of validators and plan modifiers -/

/-- A node needs the packages of validators and plan modifiers for its lists only. -/
theorem Node.Needs.listed {node : Node} (h : node.Needs p) (hp : p = .planmodifier ∨ p = .validator) :
    ∃ field extensions, node.Lists field p extensions ∧ extensions.HasImport := by
  have hne : p ≠ .types ∧ p ≠ .attr := by rcases hp with rfl | rfl <;> decide
  cases h with
  | list listed himport => exact ⟨_, _, listed, himport⟩
  | elementType _ hneeds => exact absurd hneeds.types_or_attr (not_or.mpr hne)
  | attributeTypes _ hneeds => exact absurd hneeds.types_or_attr (not_or.mpr hne)
  | @default d _ given hliteral =>
    cases d <;> cases hliteral <;> rcases hp with hp | hp <;> cases hp
  | _ => rcases hp with hp | hp <;> cases hp

/-- What is written for the first definition of a list opens the list with its package. -/
theorem Extensions.exists_text_clause {extensions : Extensions} (h : extensions.definitions ≠ [])
    (field : String) (package : Package) :
    ∃ rest, (extensions.clause field package).text =
      field ++ ": []" ++ package.qualifier ++ "." ++ extensions.kind.framework ++ "\x7b\n" ++ rest := by
  have hsome : extensions.definitions.isEmpty = false := by simpa using h
  rw [clause, hsome, if_neg Bool.false_ne_true, Source.text_enclose]
  simp only [Source.text_cons, Source.text_nil, Chunk.text, String.append_empty, String.append_assoc]
  exact ⟨_, rfl⟩

/-- **Packages of lists.**  A list of validators or plan modifiers with an import in some definition
is written with its package, and the tree that it stands in imports the package.  A list without any
does not ask for it: what imports the package is such a list, or an import of the package that is
written in the tree. -/
theorem package_of_list (node : Node) :
    (∀ (inner : Node) (field : String) (package : Package) (extensions : Extensions),
      node.Reaches inner → inner.Lists field package extensions → extensions.HasImport →
        (∃ rest, (extensions.clause field package).text = field ++ ": []" ++ package.qualifier ++
          "." ++ extensions.kind.framework ++ "\x7b\n" ++ rest) ∧
        package.origin ∈ node.imports ∧ node.imports.containsPath package.path = true) ∧
    ∀ package : Package, package = .planmodifier ∨ package = .validator →
      node.imports.containsPath package.path = true →
        (∃ inner field extensions, node.Reaches inner ∧ inner.Lists field package extensions ∧
          extensions.HasImport) ∨
        ∃ inner, node.Reaches inner ∧ ∃ i ∈ inner.written, i.path = package.path := by
  constructor
  · intro inner field package extensions hinner hlist himport
    have hsome : extensions.definitions ≠ [] := by
      obtain ⟨d, hd, -⟩ := himport
      exact List.ne_nil_of_mem hd
    have hneeds : inner.Needs package := .list hlist himport
    have hmem : package.origin ∈ node.imports := Node.mem_imports.mpr ⟨inner, hinner, hneeds.brings⟩
    exact ⟨Extensions.exists_text_clause hsome field package, hmem, Imports.containsPath_of_mem hmem⟩
  · intro package hpackage hcontains
    obtain ⟨i, hi, hpath⟩ := Imports.containsPath_iff.mp hcontains
    obtain ⟨inner, hinner, hbrings⟩ := Node.mem_imports.mp hi
    rcases hbrings.from_written.source with ⟨q, -, rfl⟩ | hwritten
    · obtain rfl : q = package := Package.path_injective hpath
      rcases hbrings.needs_or_written with hneeds | hwritten
      · obtain ⟨field, extensions, hlist, himport⟩ := hneeds.listed hpackage
        exact .inl ⟨inner, field, extensions, hinner, hlist, himport⟩
      · exact .inr ⟨inner, hinner, _, hwritten, hpath⟩
    · exact .inr ⟨inner, hinner, i, hwritten, hpath⟩

/-- Plan modifiers of another package for a flag in an object. -/
def modifiedFlag : Node :=
  .scalar .bool {
    planModifiers := ⟨.scalar .bool, [{ imports := [{ path := "example.com/plan" }]
                                        expression := "plan.Keep()" }]⟩
    validators := ⟨.scalar .bool, []⟩ }

def modifiedNode : Node :=
  .nested .singleAttribute { planModifiers := ⟨.object, []⟩, validators := ⟨.object, []⟩ }
    { attributes := [("flag", modifiedFlag)] }

/-- The modifier brings its package, and nothing else could. -/
theorem package_of_list_modifiedNode :
    modifiedNode.imports.containsPath Package.planmodifier.path = true ∧
      ((∃ inner field extensions, modifiedNode.Reaches inner ∧
          inner.Lists field .planmodifier extensions ∧ extensions.HasImport) ∨
        ∃ inner, modifiedNode.Reaches inner ∧
          ∃ i ∈ inner.written, i.path = Package.planmodifier.path) := by
  obtain ⟨hlists, honly⟩ := package_of_list modifiedNode
  have hreaches : modifiedNode.Reaches modifiedFlag := .head List.mem_cons_self (.refl _)
  have himport : modifiedFlag.facets.planModifiers.HasImport :=
    ⟨_, List.mem_cons_self, _, List.mem_cons_self, by decide⟩
  obtain ⟨-, -, hcontains⟩ := hlists _ _ _ _ hreaches .planModifiers himport
  exact ⟨hcontains, honly _ (.inl rfl) hcontains⟩

/-- A validator of the provider itself. -/
def localAttribute : Attribute :=
  .mk "name" (.leaf (.string
    { mode := .optional, validators := [{ custom := some { expression := "local()" } }] }))

/-- A list whose definitions have no imports is written with the package and does not import it. -/
theorem local_list_without_package :
    ∃ node, localAttribute.build = .ok node ∧
      node.Lists "Validators" .validator ⟨.scalar .string, [{ expression := "local()" }]⟩ ∧
      (Extensions.clause "Validators" .validator
        ⟨.scalar .string, [{ expression := "local()" }]⟩).text =
          "Validators: []validator.String\x7b\nlocal(),\n\x7d,\n" ∧
      node.imports.containsPath Package.validator.path = false := by
  refine ⟨_, localAttribute.build_eq.trans rfl, .validators, by decide, ?_⟩
  rw [Node.imports, Node.visit_eq]
  decide

end ProviderCode
