import ProviderCode.Decimal.Layout
import ProviderCode.Node.Basic
import ProviderCode.Node.TypeExpression
import ProviderCode.Source.Name

/-!
# Clauses

The clause that a facet adds to a schema, and the imports that the clause needs. A facet that is not
given adds nothing.
-/

namespace ProviderCode

/-! ### Plain facets -/

namespace Clause

def mode : Option Mode → Source
  | some .computed => [.fixed "Computed: true,\n"]
  | some .computedOptional => [.fixed "Computed: true,\nOptional: true,\n"]
  | some .optional => [.fixed "Optional: true,\n"]
  | some .required => [.fixed "Required: true,\n"]
  | none => []

def sensitive : Option Bool → Source
  | some true => [.fixed "Sensitive: true,\n"]
  | some false | none => []

/-- The description, also in the place of the one in markup. -/
def description : Option String → Source
  | some text =>
    [.fixed "Description: ", .literal text, .fixed ",\nMarkdownDescription: ", .literal text,
      .fixed ",\n"]
  | none => []

def deprecation : Option String → Source
  | some text => [.fixed "DeprecationMessage: ", .literal text, .fixed ",\n"]
  | none => []

end Clause

/-! ### Custom types -/

namespace CustomType

def clause (custom : CustomType) : Source :=
  [.fixed "CustomType: ", .verbatim custom.type, .fixed ",\n"]

/-- The clause of a custom type that may not be given. -/
def clause? : Option CustomType → Source
  | some custom => custom.clause
  | none => []

/-- The clause of an object's type, which is generated if no custom type replaces it. -/
def objectClause (name : String) : Option CustomType → Source
  | some custom => custom.clause
  | none =>
    [.fixed "CustomType: ", .name name, .fixed "Type\x7b\nObjectType: ",
      .qualified .types "ObjectType",
      .fixed "\x7b\nAttrTypes: ", .name name,
      .fixed "Value\x7b\x7d.AttributeTypes(ctx),\n\x7d,\n\x7d,\n"]

/-- The imports of the type of a value: its own, or those of the framework. -/
def imports : Option CustomType → Imports
  | some custom => .ofOption custom.origin
  | none => Imports.empty.insertPackage .types

end CustomType

/-! ### Validators and plan modifiers -/

namespace Extensions

/-- The custom ones among validators or plan modifiers, in order. -/
def ofList (kind : ValueKind) (list : List Extension) : Extensions :=
  ⟨kind, list.filterMap (·.custom)⟩

/-- A list of extensions of one sort, if there are any. -/
def clause (field : String) (package : Package) (extensions : Extensions) : Source :=
  if extensions.definitions.isEmpty then []
  else
    Source.enclose
      [.fixed (field ++ ": []"), .qualified package extensions.kind.framework, .fixed "\x7b\n"]
      (extensions.definitions.flatMap fun d => [.verbatim d.expression, .fixed ",\n"])
      [.fixed "\x7d,\n"]

def validatorsClause (extensions : Extensions) : Source := extensions.clause "Validators" .validator

def planModifiersClause (extensions : Extensions) : Source :=
  extensions.clause "PlanModifiers" .planmodifier

/-- The imports of the definitions, and the framework's package if one of them has any. -/
def imports (package : Package) (extensions : Extensions) : Imports :=
  (extensions.definitions.filter Definition.hasImport).foldl
    (fun imports d => (imports.insertPackage package).insertAll d.namedImports) .empty

def validatorsImports (extensions : Extensions) : Imports := extensions.imports .validator

def planModifiersImports (extensions : Extensions) : Imports := extensions.imports .planmodifier

end Extensions

/-! ### Defaults -/

/-- Numbers in expressions are positional from `0.0001` up to below `1e16`, and their exponents have
no plus sign. -/
def DefaultValue.floatLayout : Decimal.Layout where
  positionalFrom := -4
  positionalBelow := 16
  plusSign := false
  tie := .up

/-- The default to generate: the literal if there is one. -/
def Default.choose {τ : Type} (literal : τ → DefaultValue) (d : Default τ) : Option DefaultValue :=
  match d.literal with
  | some a => some (literal a)
  | none => d.custom.map .custom

namespace DefaultValue

def expression : DefaultValue → Source
  | .bool b =>
    [.qualified .booldefault "StaticBool", .fixed ("(" ++ (if b then "true" else "false") ++ ")")]
  | .float64 x =>
    [.qualified .float64default "StaticFloat64", .fixed ("(" ++ floatLayout.write x ++ ")")]
  | .int64 i =>
    [.qualified .int64default "StaticInt64", .fixed ("(" ++ Int.repr i.toInt ++ ")")]
  | .string s =>
    [.qualified .stringdefault "StaticString", .fixed "(", .literal s, .fixed ")"]
  | .custom d => [.verbatim d.expression]

def clause (d : DefaultValue) : Source :=
  Source.enclose [.fixed "Default: "] d.expression [.fixed ",\n"]

def imports : DefaultValue → Imports
  | .bool _ => Imports.empty.insertPackage .booldefault
  | .float64 _ => Imports.empty.insertPackage .float64default
  | .int64 _ => Imports.empty.insertPackage .int64default
  | .string _ => Imports.empty.insertPackage .stringdefault
  | .custom d => .ofList d.namedImports

end DefaultValue

/-! ### Element types -/

namespace Clause

def elementType (element : ElementType) : Source :=
  Source.enclose [.fixed "ElementType: "] element.expression [.fixed ",\n"]

/-- The types of an object attribute, which are in order already. -/
def attributeTypes (types : List (String × ElementType)) : Source :=
  Source.enclose [.fixed "AttributeTypes: "] (AttributeTypes.expression types) [.fixed ",\n"]

end Clause

/-! ### All facets of a node -/

namespace NodeFacets

/-- The clauses after the custom type, in their fixed order. -/
def clauses (f : NodeFacets) : Source :=
  Clause.mode f.mode ++ Clause.sensitive f.sensitive ++ Clause.description f.description ++
    Clause.deprecation f.deprecation ++ f.planModifiers.planModifiersClause ++
    f.validators.validatorsClause ++ (f.default.map DefaultValue.clause).getD []

/-- The imports of those clauses. -/
def imports (f : NodeFacets) : Imports :=
  (f.default.map DefaultValue.imports).getD ∅ ∪ f.planModifiers.planModifiersImports ∪
    f.validators.validatorsImports

end NodeFacets

end ProviderCode
