import ProviderCode.Proofs.TypeOrder

/-!
# What shows of element types

A custom type stands for the whole of the element that has it.  Of an element type those elements show that
are not below one with a custom type.

Main statement: the expression of an element type refers to the types of exactly these elements, and its
imports are exactly theirs.  Neither depends on the order in which attribute types are given.
-/

namespace ProviderCode

/-! ### References of a source -/

/-- Whether a chunk refers to a type, by its package or by an expression of the specification. -/
def Chunk.refers : Chunk → Bool
  | .qualified _ _ | .verbatim _ => true
  | .fixed _ | .name _ | .literal _ => false

/-- The types that a source refers to. -/
def Source.references (source : Source) : Source := source.filter Chunk.refers

namespace Source

@[simp] theorem references_nil : references [] = [] := rfl

@[simp] theorem references_cons (chunk : Chunk) (source : Source) :
    references (chunk :: source) =
      if chunk.refers then chunk :: references source else references source :=
  List.filter_cons

@[simp] theorem references_append (a b : Source) :
    references (a ++ b) = references a ++ references b :=
  List.filter_append a b

theorem references_flatMap {α : Type} (f : α → Source) (as : List α) :
    references (as.flatMap f) = as.flatMap fun a => references (f a) :=
  List.filter_flatMap

end Source

theorem Package.path_origin_iff {p q : Package} : p.origin.path = q.path ↔ q = p := by
  constructor
  · intro h
    exact (path_injective h).symm
  · rintro rfl
    rfl

namespace ElementType

/-! ### Visible elements -/

mutual

/-- The elements of an element type that are not below one with a custom type, the type itself first. -/
def visible : ElementType → List ElementType
  | .scalar type custom => [.scalar type custom]
  | .collection shape (some custom) element => [.collection shape (some custom) element]
  | .collection shape none element => .collection shape none element :: element.visible
  | .object (some custom) attributes => [.object (some custom) attributes]
  | .object none attributes => .object none attributes :: visibleInAll attributes
termination_by structural type => type

/-- The visible elements of named types. -/
def visibleInAll : List (String × ElementType) → List ElementType
  | [] => []
  | (_, type) :: rest => type.visible ++ visibleInAll rest
termination_by structural types => types

end

/-- The types that an element refers to by itself: its custom type, or those of the framework. -/
def ownReferences : ElementType → Source
  | .scalar _ (some custom) | .collection _ (some custom) _ | .object (some custom) _ =>
    [.verbatim custom.type]
  | .scalar type none => [.qualified .types (type.framework ++ "Type")]
  | .collection shape none _ => [.qualified .types (shape.framework ++ "Type")]
  | .object none _ => [.qualified .types "ObjectType", .qualified .attr "Type"]

/-- The imports that an element needs by itself: that of its custom type if it names a package, or the
packages of the framework. -/
def ownImports : ElementType → List Import
  | .scalar _ (some custom) | .collection _ (some custom) _ | .object (some custom) _ =>
    (custom.origin.filter Import.hasPath).toList
  | .scalar _ none | .collection _ none _ => [Package.types.origin]
  | .object none _ => [Package.types.origin, Package.attr.origin]

/-! ### Expressions -/

theorem references_mapExpression (entries : List (String × Source)) :
    (mapExpression entries).references =
      .qualified .attr "Type" :: entries.flatMap fun entry => entry.2.references := by
  simp [mapExpression, Source.enclose, Source.references_flatMap, Chunk.refers]

/-- Sorted entries refer to the same types as entries in any other order. -/
theorem references_mapExpression_byName (entries : List (String × Source)) :
    (mapExpression (byName entries)).references.Perm
      (.qualified .attr "Type" :: entries.flatMap fun entry => entry.2.references) := by
  rw [references_mapExpression]
  exact ((byName_perm entries).flatMap_right fun entry => entry.2.references).cons _

mutual

/-- **An expression refers to the types of the visible elements**, once for each of these. -/
theorem references_expression : ∀ type : ElementType,
    type.expression.references.Perm (type.visible.flatMap ownReferences)
  | .scalar _ (some _) | .collection _ (some _) _ | .object (some _) _ | .scalar _ none => .refl _
  | .collection shape none element => by
    have hexpression : (ElementType.collection shape none element).expression.references =
        .qualified .types (shape.framework ++ "Type") :: element.expression.references := by
      simp [expression, Source.enclose, Chunk.refers]
    rw [hexpression]
    exact (references_expression element).cons _
  | .object none attributes => by
    have hexpression : (ElementType.object none attributes).expression.references =
        .qualified .types "ObjectType" ::
          (mapExpression (byName (expressions attributes))).references := by
      simp [expression, Source.enclose, Chunk.refers]
    rw [hexpression]
    refine ((references_mapExpression_byName _).trans ?_).cons _
    exact (references_expressions attributes).cons _

theorem references_expressions : ∀ types : List (String × ElementType),
    ((expressions types).flatMap fun entry => entry.2.references).Perm
      ((visibleInAll types).flatMap ownReferences)
  | [] => .refl _
  | (_, type) :: rest => by
    rw [expressions, visibleInAll, List.flatMap_cons, List.flatMap_append]
    exact (references_expression type).append (references_expressions rest)

end

/-! ### Imports -/

mutual

/-- **The imports** are those of the visible elements. -/
theorem mem_imports_iff_visible {i : Import} : ∀ type : ElementType,
    i ∈ type.imports ↔ i ∈ type.visible.flatMap ownImports
  | .scalar _ (some _) | .collection _ (some _) _ | .object (some _) _ => by
    rw [imports, Imports.mem_ofOption]
    simp [visible, ownImports, Option.filter_eq_some_iff]
  | .scalar _ none => by
    simp [imports, visible, ownImports]
  | .collection _ none element => by
    rw [imports, Imports.mem_insertPackage, mem_imports_iff_visible element, visible,
      List.flatMap_cons, List.mem_append]
    simp only [ownImports, List.mem_singleton]
  | .object none attributes => by
    rw [imports, Imports.mem_insertPackage, Imports.mem_insertPackage, mem_importsOfAll_iff_visible,
      visible, List.flatMap_cons, List.mem_append]
    simp only [ownImports, List.mem_cons, List.not_mem_nil, or_false, or_assoc, or_left_comm]

theorem mem_importsOfAll_iff_visible {i : Import} : ∀ types : List (String × ElementType),
    i ∈ importsOfAll types ↔ i ∈ (visibleInAll types).flatMap ownImports
  | [] => by simp [importsOfAll, visibleInAll]
  | (_, type) :: rest => by
    rw [importsOfAll, Imports.mem_union, mem_imports_iff_visible type,
      mem_importsOfAll_iff_visible rest, visibleInAll, List.flatMap_append, List.mem_append]

end

/-- The custom type of an element comes with an import of the path. -/
def GivesPath (path : String) (element : ElementType) : Prop :=
  ∃ custom i, element.custom = some custom ∧ custom.origin = some i ∧ i.path = path

theorem mem_ownImports_custom {element : ElementType} {custom : CustomType} {i : Import}
    (h : element.custom = some custom) :
    i ∈ element.ownImports ↔ custom.origin = some i ∧ i.hasPath = true := by
  have hown : element.ownImports = (custom.origin.filter Import.hasPath).toList := by
    cases element <;> cases h <;> rfl
  rw [hown, Option.mem_toList, Option.filter_eq_some_iff]

/-- An element needs a path by itself if its custom type gives it, or if it has none and the path is that of
a package that the framework's own types need. -/
theorem exists_ownImports_iff {package : Package} {element : ElementType} :
    (∃ i ∈ element.ownImports, i.path = package.path) ↔
      element.GivesPath package.path ∨ element.custom = none ∧ (package = .types ∨
        package = .attr ∧ ∃ attributes, element = .object none attributes) := by
  cases hc : element.custom with
  | some custom =>
    have hgives : element.GivesPath package.path ↔
        ∃ i, custom.origin = some i ∧ i.path = package.path := by simp [GivesPath, hc]
    simp only [mem_ownImports_custom hc, hgives, reduceCtorEq, false_and, or_false]
    constructor
    · rintro ⟨i, ⟨horigin, -⟩, hpath⟩
      exact ⟨i, horigin, hpath⟩
    · rintro ⟨i, horigin, hpath⟩
      exact ⟨i, ⟨horigin, Import.hasPath_iff.mpr (hpath ▸ package.path_ne_empty)⟩, hpath⟩
  | none =>
    have hgives : ¬ element.GivesPath package.path := by simp [GivesPath, hc]
    cases element <;> cases hc <;> simp [ownImports, Package.path_origin_iff, hgives]

/-! ### What shows -/

/-- Elements are exactly what an expression and imports show, by themselves or in a map of attributes. -/
structure Shown (elements : List ElementType) (inMap : Bool) (expression : Source) (imports : Imports) :
    Prop where
  references : expression.references.Perm
    ((if inMap then [.qualified .attr "Type"] else []) ++ elements.flatMap ownReferences)
  mem_imports_iff : ∀ i, i ∈ imports ↔
    (inMap = true ∧ i = Package.attr.origin) ∨ i ∈ elements.flatMap ownImports
  types_iff : imports.containsPath Package.types.path = true ↔
    (∃ e ∈ elements, e.custom = none) ∨ ∃ e ∈ elements, e.GivesPath Package.types.path
  attr_iff : imports.containsPath Package.attr.path = true ↔ inMap = true ∨
    (∃ attributes, .object none attributes ∈ elements) ∨ ∃ e ∈ elements, e.GivesPath Package.attr.path

section

variable {elements : List ElementType} {inMap : Bool} {expression : Source} {imports : Imports}

theorem containsPath_iff_of_mem_imports {package : Package} (h : ∀ i, i ∈ imports ↔
    (inMap = true ∧ i = Package.attr.origin) ∨ i ∈ elements.flatMap ownImports) :
    imports.containsPath package.path = true ↔ (inMap = true ∧ package = .attr) ∨
      ∃ e ∈ elements, e.GivesPath package.path ∨ e.custom = none ∧ (package = .types ∨
        package = .attr ∧ ∃ attributes, e = .object none attributes) := by
  rw [Imports.containsPath_iff]
  constructor
  · rintro ⟨i, hi, hpath⟩
    rcases (h i).mp hi with ⟨hmap, rfl⟩ | hi
    · exact .inl ⟨hmap, Package.path_origin_iff.mp hpath⟩
    · obtain ⟨e, he, hi⟩ := List.mem_flatMap.mp hi
      exact .inr ⟨e, he, exists_ownImports_iff.mp ⟨i, hi, hpath⟩⟩
  · rintro (⟨hmap, rfl⟩ | ⟨e, he, hown⟩)
    · exact ⟨_, (h _).mpr (.inl ⟨hmap, rfl⟩), rfl⟩
    · obtain ⟨i, hi, hpath⟩ := exists_ownImports_iff.mpr hown
      exact ⟨i, (h i).mpr (.inr (List.mem_flatMap.mpr ⟨e, he, hi⟩)), hpath⟩

/-- Which packages are imported follows from which imports there are. -/
theorem Shown.of_mem_imports (hreferences : expression.references.Perm
      ((if inMap then [.qualified .attr "Type"] else []) ++ elements.flatMap ownReferences))
    (himports : ∀ i, i ∈ imports ↔
      (inMap = true ∧ i = Package.attr.origin) ∨ i ∈ elements.flatMap ownImports) :
    Shown elements inMap expression imports where
  references := hreferences
  mem_imports_iff := himports
  types_iff := by
    rw [containsPath_iff_of_mem_imports himports]
    simp only [reduceCtorEq, and_false, false_or, false_and, or_false, and_true, and_or_left,
      exists_or]
    exact or_comm
  attr_iff := by
    rw [containsPath_iff_of_mem_imports himports]
    simp only [and_true, reduceCtorEq, false_or, true_and, and_or_left, exists_or]
    refine or_congr_right (or_comm.trans (or_congr_left ?_))
    constructor
    · rintro ⟨e, he, -, attributes, rfl⟩
      exact ⟨attributes, he⟩
    · rintro ⟨attributes, he⟩
      exact ⟨_, he, rfl, attributes, rfl⟩

end

theorem shown (type : ElementType) : Shown type.visible false type.expression type.imports :=
  .of_mem_imports (references_expression type) fun i => by
    rw [mem_imports_iff_visible type]
    simp

/-- The types of an object attribute stand in a map. -/
theorem shown_inMap (types : List (String × ElementType)) :
    Shown (visibleInAll types) true (AttributeTypes.expression (byName types))
      (AttributeTypes.imports (byName types)) := by
  refine .of_mem_imports ?_ fun i => ?_
  · rw [AttributeTypes.expression, ← byName_expressions]
    exact (references_mapExpression_byName _).trans ((references_expressions types).cons _)
  · rw [AttributeTypes.imports, Imports.mem_insertPackage, importsOfAll_eq_of_perm (byName_perm types),
      mem_importsOfAll_iff_visible types]
    simp

theorem expression_of_custom {type : ElementType} {custom : CustomType} (h : type.custom = some custom) :
    type.expression = [.verbatim custom.type] ∧ type.imports = .ofOption custom.origin := by
  cases type <;> cases h <;> exact ⟨rfl, rfl⟩

end ElementType

/-! ### The theorem -/

open ElementType in
/-- **What shows of element types.**  The expression of an element type, or of the types of an object
attribute, refers to the types of exactly the visible elements, and the imports are exactly those that these
elements need.  An element with a custom type is that type's expression and import alone.  The package of
types is imported exactly if a visible element has no custom type, or has one that comes with that import;
that of attributes if a visible object has no custom type, for a map of attributes, or again for such an
import.  All this is the same for every order of attribute types of different names, at every depth. -/
theorem visible_elements_shown :
    (∀ type : ElementType, Shown type.visible false type.expression type.imports ∧
      ∀ custom, type.custom = some custom →
        type.expression = [.verbatim custom.type] ∧ type.imports = .ofOption custom.origin) ∧
    (∀ types : List (String × ElementType), Shown (visibleInAll types) true
      (AttributeTypes.expression (byName types)) (AttributeTypes.imports (byName types))) ∧
    (∀ a b : ElementType, a.Reordered b → a.expression = b.expression ∧ a.imports = b.imports) ∧
    ∀ as bs : List (String × ElementType), ListReordered as bs →
      AttributeTypes.expression (byName as) = AttributeTypes.expression (byName bs) ∧
      AttributeTypes.imports (byName as) = AttributeTypes.imports (byName bs) :=
  ⟨fun type => ⟨type.shown, fun _ h => expression_of_custom h⟩, shown_inMap,
    fun _ _ h => ⟨h.expression_eq, h.imports_eq⟩, fun _ _ h => ⟨h.expression_eq, h.imports_eq⟩⟩

/-- A list of addresses with a custom type, above types that do not show. -/
def addressType : CustomType :=
  { origin := some { path := "example.com/cidr" }, type := "cidr.Type\x7b\x7d", valueType := "cidr.Value" }

def addressElement : ElementType :=
  .collection .list (some addressType) (.object none [("mask", .scalar .int64 none)])

/-- A list of objects with these types. -/
def endpointsType (types : List (String × ElementType)) : ElementType :=
  .collection .list none (.object none types)

def endpointTypes : List (String × ElementType) :=
  [("port", .scalar .int64 none), ("address", addressElement)]

open ElementType in
/-- The types of endpoints in both orders, inside a list and in a map of their own. -/
theorem visible_elements_shown_endpoints :
    addressElement.custom = some addressType ∧
    addressElement.expression = [.verbatim "cidr.Type\x7b\x7d"] ∧
    (endpointsType endpointTypes).Reordered (endpointsType endpointTypes.reverse) ∧
    (endpointsType endpointTypes).expression = (endpointsType endpointTypes.reverse).expression ∧
    (endpointsType endpointTypes).imports = (endpointsType endpointTypes.reverse).imports ∧
    ListReordered endpointTypes endpointTypes.reverse ∧
    AttributeTypes.expression (byName endpointTypes) =
      AttributeTypes.expression (byName endpointTypes.reverse) := by
  obtain ⟨htypes, -, hreordered, hlist⟩ := visible_elements_shown
  have horder : ListReordered endpointTypes endpointTypes.reverse :=
    ⟨endpointTypes, EachReordered.refl _, .inr ⟨by decide, (List.reverse_perm _).symm⟩⟩
  have hinside : (endpointsType endpointTypes).Reordered (endpointsType endpointTypes.reverse) := by
    obtain ⟨mid, heach, hmid⟩ := horder
    exact ⟨_, ⟨mid, _, heach, hmid, rfl⟩, rfl⟩
  obtain ⟨hexpression, himports⟩ := hreordered _ _ hinside
  exact ⟨rfl, ((htypes addressElement).2 addressType rfl).1, hinside, hexpression, himports, horder,
    (hlist _ _ horder).1⟩

/-- A custom type that comes with the import of the framework's types. -/
def stringAlias : ElementType :=
  .scalar .string (some
    { origin := some { path := Package.types.path }, type := "types.StringType", valueType := "types.String" })

/-- The package of types is imported, and no visible element is without a custom type. -/
theorem types_imported_by_custom_type :
    stringAlias.imports.containsPath Package.types.path = true ∧
      ¬ ∃ e ∈ stringAlias.visible, e.custom = none := by
  constructor
  · decide
  · rintro ⟨e, he, hplain⟩
    cases List.mem_singleton.mp he
    cases hplain

end ProviderCode
