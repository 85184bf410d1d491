import ProviderCode.Node.Clause

/-!
# Schemas

The schema of a node: one expression of the generated code, with the schemas of the children inside
it. The clauses of a node stand in a fixed order. First its content (element type, attribute types
or the nested object), then its custom type, who sets it, whether it is sensitive, description,
deprecation, plan modifiers, validators and default.

The text is put together from parts, of which some are nodes still to be expanded; so trees may be
of any depth.
-/

namespace ProviderCode

/-- A part of a schema: finished source, or a child under its name. -/
inductive Part
  | source (source : Source)
  | node (name : String) (node : Node)

/-- Parts between an opening and a closing source. -/
def Part.enclose (opening : Source) (parts : List Part) (closing : Source) : List Part :=
  [Part.source opening] ++ parts ++ [Part.source closing]

namespace Clause

/-- The beginning of the clause of attributes. -/
def attributesOpening : Source :=
  [.fixed "Attributes: map[string]", .qualified .schema "Attribute", .fixed "\x7b\n"]

/-- The beginning of the clause of blocks. -/
def blocksOpening : Source :=
  [.fixed "Blocks: map[string]", .qualified .schema "Block", .fixed "\x7b\n"]

/-- The end of a clause with parts. -/
def closing : Source := [.fixed "\x7d,\n"]

end Clause

namespace NestedObject

/-- The clause of the attributes, which is always there. -/
def attributeParts (object : NestedObject Node) : List Part :=
  Part.enclose Clause.attributesOpening (object.attributes.map fun child => .node child.1 child.2)
    Clause.closing

/-- The clause of the blocks, which is there if there are blocks. -/
def blockParts (object : NestedObject Node) : List Part :=
  if object.blocks.isEmpty then []
  else
    Part.enclose Clause.blocksOpening (object.blocks.map fun child => .node child.1 child.2)
      Clause.closing

/-- The children of a node; only blocks have blocks. -/
def childParts (object : NestedObject Node) (isBlock : Bool) : List Part :=
  object.attributeParts ++ if isBlock then object.blockParts else []

/-- The clause of the object that a collection repeats. -/
def objectParts (object : NestedObject Node) (name : String) (isBlock : Bool) : List Part :=
  let type := if isBlock then "NestedBlockObject" else "NestedAttributeObject"
  Part.enclose [.fixed "NestedObject: ", .qualified .schema type, .fixed "\x7b\n"]
    (object.childParts isBlock)
    (CustomType.objectClause (Name.pascal name) object.customType ++
      object.planModifiers.planModifiersClause ++ object.validators.validatorsClause ++
      Clause.closing)

end NestedObject

namespace Node

/-- The parts of a node between its first line and its facets. -/
def contentParts (name : String) : Node → List Part
  | .scalar _ f => [.source (CustomType.clause? f.customType)]
  | .collection _ f element =>
    [.source (Clause.elementType element ++ CustomType.clause? f.customType)]
  | .object f types => [.source (Clause.attributeTypes types ++ CustomType.clause? f.customType)]
  | .nested kind f body =>
    if kind.isSingle then
      body.childParts kind.isBlock ++
        [.source (CustomType.objectClause (Name.pascal name) body.customType)]
    else body.objectParts name kind.isBlock ++ [.source (CustomType.clause? f.customType)]

/-- The schema of a node, its children not yet expanded. -/
def schemaParts (name : String) (node : Node) : List Part :=
  Part.enclose
    [.literal name, .fixed ": ", .qualified .schema node.kind.schemaType, .fixed "\x7b\n"]
    (node.contentParts name) (node.facets.clauses ++ Clause.closing)

/-- The number of nodes in parts that are still to be expanded. -/
def openNodes : List Part → Nat
  | [] => 0
  | .source _ :: parts => openNodes parts
  | .node _ node :: parts => node.size + openNodes parts

theorem openNodes_append (a b : List Part) : openNodes (a ++ b) = openNodes a + openNodes b := by
  induction a with
  | nil => simp [openNodes]
  | cons part rest ih => cases part <;> simp [openNodes, ih, Nat.add_assoc]

theorem openNodes_map (children : Children Node) :
    openNodes (children.map fun child => .node child.1 child.2) = sizes children := by
  induction children with
  | nil => rfl
  | cons child rest ih => simp [openNodes, ih]

theorem openNodes_enclose (opening : Source) (parts : List Part) (closing : Source) :
    openNodes (Part.enclose opening parts closing) = openNodes parts := by
  simp [Part.enclose, openNodes, openNodes_append]

theorem openNodes_attributeParts (object : NestedObject Node) :
    openNodes object.attributeParts = sizes object.attributes := by
  rw [NestedObject.attributeParts, openNodes_enclose, openNodes_map]

theorem openNodes_blockParts (object : NestedObject Node) :
    openNodes object.blockParts = sizes object.blocks := by
  unfold NestedObject.blockParts
  split
  · next h => simp [List.isEmpty_iff.mp h, openNodes]
  · rw [openNodes_enclose, openNodes_map]

theorem openNodes_childParts (object : NestedObject Node) (isBlock : Bool) :
    openNodes (object.childParts isBlock) ≤ sizes object.children := by
  cases isBlock <;>
    simp [NestedObject.childParts, NestedObject.children, openNodes_append,
      openNodes_attributeParts, openNodes_blockParts]

/-- The parts of a node hold only its children. -/
theorem openNodes_schemaParts (name : String) (node : Node) :
    openNodes (node.schemaParts name) ≤ sizes node.children := by
  cases node with
  | nested kind f body =>
    have := openNodes_childParts body kind.isBlock
    rw [show (Node.nested kind f body).children = body.children from rfl]
    cases h : kind.isSingle <;>
      simp_all [schemaParts, contentParts, NestedObject.objectParts, openNodes, openNodes_append,
        openNodes_enclose]
  | _ => simp [schemaParts, contentParts, openNodes, openNodes_enclose]

/-- Expands parts from the front. -/
def expand (done : Array Chunk) : List Part → Array Chunk
  | [] => done
  | .source source :: parts => expand (done ++ source) parts
  | .node name node :: parts => expand done (node.schemaParts name ++ parts)
termination_by parts => (openNodes parts, parts.length)
decreasing_by
  · exact Prod.Lex.right _ (Nat.lt_succ_self _)
  · refine Prod.Lex.left _ _ ?_
    have := openNodes_schemaParts name node
    have := node.size_eq
    simp only [openNodes, openNodes_append]
    omega

/-- The schema of a node under a name. -/
def schemaSource (name : String) (node : Node) : Source := (expand #[] [.node name node]).toList

/-- The text of the schema of a node under a name. -/
def schema (name : String) (node : Node) : String := (node.schemaSource name).text

end Node

end ProviderCode
