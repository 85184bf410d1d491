import ProviderCode.Source.Import

/-!
# Facets

What a specification can say about an attribute or block besides its kind: who sets the value, its
documentation, its default, the types, validators and plan modifiers that replace or extend the
framework's own. Expressions of the generated language are kept as they are written.
-/

namespace ProviderCode

/-- Who sets a value: the provider, the configuration, or either. -/
inductive Mode
  | computed
  | computedOptional
  | optional
  | required
deriving DecidableEq, Repr

/-- A type that replaces the framework's own, and the type of its values. -/
structure CustomType where
  /-- The import that the type needs. -/
  origin : Option Import := none
  type : String
  valueType : String
deriving DecidableEq, Repr

/-- A type of another library that an object converts to and from. -/
structure ExternalType where
  /-- The import that the type needs. -/
  origin : Option Import := none
  type : String
deriving DecidableEq, Repr

/-- An expression together with the imports it needs. -/
structure Definition where
  imports : List Import := []
  expression : String
deriving Repr

namespace Definition

/-- Two definitions are the same if their expressions are and their imports are up to order. -/
def same (a b : Definition) : Bool :=
  a.expression == b.expression && a.imports.length == b.imports.length
    && a.imports.mergeSort Import.le == b.imports.mergeSort Import.le

instance : BEq Definition := ⟨same⟩

/-- The imports that name a package. -/
def namedImports (d : Definition) : List Import := d.imports.filter Import.hasPath

/-- Whether some import names a package. -/
def hasImport (d : Definition) : Bool := d.imports.any Import.hasPath

end Definition

/-- A validator or plan modifier. One that is not custom generates nothing. -/
structure Extension where
  custom : Option Definition := none
deriving BEq, Repr

/-- A default value: a literal, or an expression that gives one. -/
structure Default (τ : Type) where
  literal : Option τ := none
  custom : Option Definition := none
deriving BEq, Repr

/-- The facets that attributes and blocks have in common. -/
structure Facets where
  customType : Option CustomType := none
  deprecation : Option String := none
  description : Option String := none
  planModifiers : List Extension := []
  sensitive : Option Bool := none
  validators : List Extension := []
deriving BEq, Repr

/-- The facets of an attribute whose default literals are of the type `τ`; an attribute without
default literals has the empty type. -/
structure AttributeFacets (τ : Type) extends Facets where
  mode : Mode
  default : Option (Default τ) := none
deriving BEq, Repr

/-- The facets of a block. -/
structure BlockFacets extends Facets where
  mode : Option Mode := none
deriving BEq, Repr

/-- The facets of the object that a nested collection repeats. -/
structure ObjectFacets where
  external : Option ExternalType := none
  customType : Option CustomType := none
  planModifiers : List Extension := []
  validators : List Extension := []
deriving BEq, Repr

end ProviderCode
