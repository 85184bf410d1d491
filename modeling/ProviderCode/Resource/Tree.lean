import ProviderCode.Node.Adapter
import ProviderCode.Node.Build
import ProviderCode.Node.Equality
import ProviderCode.Node.Imports
import ProviderCode.Node.Schema
import ProviderCode.Node.TypePair

/-!
# Resource trees

A resource prepared for generation: the nodes of its schema's attributes and blocks. Where both are
gone through together they are in one order by name.
-/

namespace ProviderCode

structure ResourceTree where
  name : String
  attributes : Children Node
  blocks : Children Node
  description : Option String
  deprecation : Option String

/-- Builds the nodes of a resource. -/
def Resource.build (resource : Resource) : Generated ResourceTree :=
  match resource.schema with
  | none => .error (.missingPart resource.name "resource" "schema")
  | some schema => do
    let object ← NestedObject.build resource.name schema.attributes schema.blocks
    return {
      name := resource.name
      attributes := object.attributes
      blocks := object.blocks
      description := schema.description
      deprecation := schema.deprecation }

namespace ResourceTree

/-- Whether two lists of children are the same names with equal nodes. -/
def sameChildren (a b : Children Node) : Bool :=
  Children.keys a == Children.keys b && (Node.pairs a b).all fun pair => pair.1.equal pair.2

def equal (a b : ResourceTree) : Bool :=
  a.name == b.name && sameChildren a.attributes b.attributes && sameChildren a.blocks b.blocks
    && a.description == b.description && a.deprecation == b.deprecation

instance : BEq ResourceTree := ⟨equal⟩

/-- The attributes and blocks in one order. -/
def nodes (tree : ResourceTree) : Children Node := Children.merge tree.attributes tree.blocks

/-- The schemas of children. -/
def childSchemas (children : Children Node) : Source :=
  children.flatMap fun child => child.2.schemaSource child.1

/-- The clause of the attributes, which is always there. -/
def attributesClause (tree : ResourceTree) : Source :=
  Clause.attributesOpening.enclose (childSchemas tree.attributes) Clause.closing

/-- The clause of the blocks, which is there if there are blocks. -/
def blocksClause (tree : ResourceTree) : Source :=
  if tree.blocks.isEmpty then []
  else Clause.blocksOpening.enclose (childSchemas tree.blocks) Clause.closing

/-- The beginning of the function that returns the schema. -/
def schemaOpening (tree : ResourceTree) : Source :=
  [.fixed "func ", .name (Name.pascal tree.name), .fixed "ResourceSchema(ctx ",
    .qualified .context "Context", .fixed ") ", .qualified .schema "Schema",
    .fixed " \x7b\nreturn ", .qualified .schema "Schema", .fixed "\x7b\n"]

/-- The function that returns the schema. -/
def schemaSource (tree : ResourceTree) : Source :=
  tree.schemaOpening.enclose
    (tree.attributesClause ++ tree.blocksClause ++ Clause.description tree.description ++
      Clause.deprecation tree.deprecation)
    [.fixed "\x7d\n\x7d\n"]

def schema (tree : ResourceTree) : String := tree.schemaSource.text

/-- The fields of the model, one for each node. -/
def modelFields (tree : ResourceTree) : List ModelField :=
  tree.nodes.map fun child => child.2.modelField child.1

/-- The struct of the model. -/
def modelSource (tree : ResourceTree) : Source :=
  Source.enclose [.fixed "type ", .name (Name.pascal tree.name), .fixed "Model struct \x7b\n"]
    (tree.modelFields.flatMap fun field =>
      Source.enclose [.fixed "\t"] field.source [.fixed "\n"])
    [.fixed "\x7d\n"]

def model (tree : ResourceTree) : String := tree.modelSource.text

/-- The type pairs of all nodes. -/
def typePairs (tree : ResourceTree) : Generated String := do
  let texts ← tree.nodes.mapM fun child => child.2.typePairs child.1
  return String.join texts

/-- The adapters of all nodes. -/
def adapters (tree : ResourceTree) : Generated String := do
  let texts ← tree.nodes.mapM fun child => child.2.adapters child.1
  return String.join texts

/-- The imports of all nodes. -/
def imports (tree : ResourceTree) : Imports :=
  tree.nodes.foldl (fun imports child => imports ∪ child.2.imports) ∅

end ResourceTree

end ProviderCode
