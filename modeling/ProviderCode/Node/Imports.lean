import ProviderCode.Node.Clause
import ProviderCode.Node.External
import ProviderCode.Node.Walk

/-!
# Imports of nodes

The imports that the code of a node needs, itself and all its descendants. They are found from the
tree each time, so they always fit the code that the same tree gives.
-/

namespace ProviderCode

/-- The imports of an object without those of its children. -/
def NestedObject.ownImports (object : NestedObject Node) : Imports :=
  (if object.generatesType then Imports.empty.insertPackage .attr else ∅) ∪
    CustomType.imports object.customType ∪ object.planModifiers.planModifiersImports ∪
    object.validators.validatorsImports ∪ (object.external.map ExternalType.imports).getD ∅

namespace Node

/-- The imports of a node's values; a single object has those of its object. -/
def valueImports : Node → Imports
  | .scalar _ f => CustomType.imports f.customType
  | .collection _ f element => CustomType.imports f.customType ∪ element.imports
  | .object f types => CustomType.imports f.customType ∪ AttributeTypes.imports types
  | .nested kind f _ => if kind.isSingle then ∅ else CustomType.imports f.customType

/-- The imports of a node without those of its children. -/
def ownImports (node : Node) : Imports :=
  node.valueImports ∪ node.facets.imports ∪ (node.object?.map NestedObject.ownImports).getD ∅

/-- The imports of a node and its descendants. -/
def imports (node : Node) : Imports :=
  visit (fun imports _ node => imports ∪ node.ownImports) ∅ [("", node)]

end Node

end ProviderCode
