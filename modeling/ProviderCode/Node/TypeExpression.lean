import ProviderCode.Node.Kind
import ProviderCode.Source.Chunk
import ProviderCode.Source.Imports

/-!
# Type expressions

The expression of an element type, and the imports it needs. A custom type stands for the whole of
what it replaces: nothing below it is written or imported. The attributes of an object are written
in the order of their names, attributes of one name in the order in which they are given.
-/

namespace ProviderCode

namespace ElementType

/-- Named entries in the order of their names. -/
def byName {α : Type} (entries : List (String × α)) : List (String × α) :=
  entries.mergeSort fun a b => a.1 ≤ b.1

/-- The map from the names of an object's attributes to their types. -/
def mapExpression (entries : List (String × Source)) : Source :=
  Source.enclose [.fixed "map[string]", .qualified .attr "Type", .fixed "\x7b\n"]
    (entries.flatMap fun entry =>
      Source.enclose [.literal entry.1, .fixed ": "] entry.2 [.fixed ",\n"])
    [.fixed "\x7d"]

mutual

def expression : ElementType → Source
  | .scalar _ (some custom) | .collection _ (some custom) _ | .object (some custom) _ =>
    [.verbatim custom.type]
  | .scalar type none => [.qualified .types (type.framework ++ "Type")]
  | .collection shape none element =>
    Source.enclose [.qualified .types (shape.framework ++ "Type"), .fixed "\x7b\nElemType: "]
      element.expression [.fixed ",\n\x7d"]
  | .object none attributes =>
    Source.enclose [.qualified .types "ObjectType", .fixed "\x7b\nAttrTypes: "]
      (mapExpression (byName (expressions attributes))) [.fixed ",\n\x7d"]
termination_by structural type => type

/-- The expressions of named types. -/
def expressions : List (String × ElementType) → List (String × Source)
  | [] => []
  | (name, type) :: rest => (name, type.expression) :: expressions rest
termination_by structural types => types

end

mutual

def imports : ElementType → Imports
  | .scalar _ (some custom) | .collection _ (some custom) _ | .object (some custom) _ =>
    .ofOption custom.origin
  | .scalar _ none => Imports.empty.insertPackage .types
  | .collection _ none element => element.imports.insertPackage .types
  | .object none attributes => ((importsOfAll attributes).insertPackage .types).insertPackage .attr
termination_by structural type => type

/-- The imports of named types together. -/
def importsOfAll : List (String × ElementType) → Imports
  | [] => .empty
  | (_, type) :: rest => type.imports ∪ importsOfAll rest
termination_by structural types => types

end

end ElementType

/-! ### The types of an object attribute -/

namespace AttributeTypes

/-- The expression of attribute types that are in order already. -/
def expression (types : List (String × ElementType)) : Source :=
  ElementType.mapExpression (ElementType.expressions types)

def imports (types : List (String × ElementType)) : Imports :=
  (ElementType.importsOfAll types).insertPackage .attr

end AttributeTypes

end ProviderCode
