import Mathlib.Logic.Function.Iterate
import ProviderCode.Node.Schema

/-!
# The text of a schema

What expanding parts from a list prints.  The text of a node is its first line, then its content, in
which the texts of its children stand in the order of their names, then its facets, clause by clause
in a fixed order, and the closing brace.

Main statement: this recursion gives the text of a schema.  The text of a child stands in one piece
in that of its parent, and the list of parts comes to its end for every tree.
-/

namespace ProviderCode

/-! ### The recursion -/

/-- The first line of a node. -/
def firstLine (name : String) (kind : NodeKind) : String :=
  Literal.encode name ++ ": schema." ++ kind.schemaType ++ "\x7b\n"

/-- The clauses of the facets after the custom type. -/
def NodeFacets.print (f : NodeFacets) : String :=
  (Clause.mode f.mode).text ++ (Clause.sensitive f.sensitive).text ++
    (Clause.description f.description).text ++ (Clause.deprecation f.deprecation).text ++
    f.planModifiers.planModifiersClause.text ++ f.validators.validatorsClause.text ++
    match f.default with
    | some d => d.clause.text
    | none => ""

/-- The clauses of the children: that of the attributes, and that of the blocks where blocks can be
and are.  `attributes` and `blocks` are the texts of the children. -/
def childrenText (attributes : String) (hasBlocks : Bool) (blocks : String) : String :=
  "Attributes: map[string]schema.Attribute\x7b\n" ++ attributes ++ "\x7d,\n" ++
    if hasBlocks then "Blocks: map[string]schema.Block\x7b\n" ++ blocks ++ "\x7d,\n" else ""

/-- The type in a schema of the object that a collection repeats. -/
def NestedKind.objectType (kind : NestedKind) : String :=
  if kind.isBlock then "NestedBlockObject" else "NestedAttributeObject"

mutual

/-- The text of a node under a name. -/
def Node.print (name : String) : Node → String
  | .scalar type f =>
    firstLine name (.scalar type) ++ (CustomType.clause? f.customType).text ++ f.print ++ "\x7d,\n"
  | .collection shape f element =>
    firstLine name (.collection shape) ++ (Clause.elementType element).text ++
      (CustomType.clause? f.customType).text ++ f.print ++ "\x7d,\n"
  | .object f types =>
    firstLine name .object ++ (Clause.attributeTypes types).text ++
      (CustomType.clause? f.customType).text ++ f.print ++ "\x7d,\n"
  | .nested kind f ⟨_, customType, planModifiers, validators, as, bs⟩ =>
    let children := childrenText (printChildren as) (kind.isBlock && !bs.isEmpty) (printChildren bs)
    let objectType := (CustomType.objectClause (Name.pascal name) customType).text
    firstLine name (.nested kind) ++
      (if kind.isSingle then children ++ objectType
      else
        "NestedObject: schema." ++ kind.objectType ++ "\x7b\n" ++ children ++ objectType ++
          planModifiers.planModifiersClause.text ++ validators.validatorsClause.text ++ "\x7d,\n" ++
          (CustomType.clause? f.customType).text) ++
      f.print ++ "\x7d,\n"
termination_by structural node => node

/-- The texts of children, each under its own name. -/
def printChildren : Children Node → String
  | [] => ""
  | (name, node) :: rest => node.print name ++ printChildren rest
termination_by structural children => children

end

/-! ### Parts -/

/-- The text that a part stands for. -/
def Part.print : Part → String
  | .source s => s.text
  | .node name child => child.print name

/-- The text that parts stand for. -/
def printParts (parts : List Part) : String := String.join (parts.map Part.print)

@[simp] theorem printParts_nil : printParts [] = "" := rfl

@[simp] theorem printParts_cons (part : Part) (parts : List Part) :
    printParts (part :: parts) = part.print ++ printParts parts := by
  rw [printParts, List.map_cons, String.join_cons, printParts]

@[simp] theorem printParts_append (a b : List Part) :
    printParts (a ++ b) = printParts a ++ printParts b := by
  induction a with
  | nil => rw [List.nil_append, printParts_nil, String.empty_append]
  | cons part rest ih =>
    rw [List.cons_append, printParts_cons, printParts_cons, ih, String.append_assoc]

@[simp] theorem printParts_enclose (opening : Source) (parts : List Part) (closing : Source) :
    printParts (Part.enclose opening parts closing) =
      opening.text ++ printParts parts ++ closing.text := by
  simp only [Part.enclose, printParts_append, printParts_cons, printParts_nil, Part.print,
    String.append_empty]

/-- Children as parts are printed one after the other. -/
@[simp] theorem printParts_children (children : Children Node) :
    printParts (children.map fun child => .node child.1 child.2) = printChildren children := by
  induction children with
  | nil => rfl
  | cons child rest ih =>
    rw [List.map_cons, printParts_cons, ih, printChildren]
    rfl

theorem printParts_attributeParts (object : NestedObject Node) :
    printParts object.attributeParts =
      "Attributes: map[string]schema.Attribute\x7b\n" ++ printChildren object.attributes ++
        "\x7d,\n" := by
  rw [NestedObject.attributeParts, printParts_enclose, printParts_children]
  rfl

theorem printParts_blockParts (object : NestedObject Node) :
    printParts object.blockParts =
      if !object.blocks.isEmpty then
        "Blocks: map[string]schema.Block\x7b\n" ++ printChildren object.blocks ++ "\x7d,\n"
      else "" := by
  rw [NestedObject.blockParts]
  cases object.blocks.isEmpty with
  | true => rfl
  | false =>
    rw [if_neg Bool.false_ne_true, printParts_enclose, printParts_children]
    rfl

theorem printParts_childParts (object : NestedObject Node) (isBlock : Bool) :
    printParts (object.childParts isBlock) =
      childrenText (printChildren object.attributes) (isBlock && !object.blocks.isEmpty)
        (printChildren object.blocks) := by
  rw [NestedObject.childParts, printParts_append, printParts_attributeParts]
  cases isBlock with
  | true =>
    rw [if_pos rfl, printParts_blockParts]
    rfl
  | false => rfl

theorem NodeFacets.text_clauses (f : NodeFacets) : f.clauses.text = f.print := by
  simp only [NodeFacets.clauses, NodeFacets.print, Source.text_append]
  cases f.default <;> rfl

theorem text_firstLine (name : String) (kind : NodeKind) :
    Source.text [.literal name, .fixed ": ", .qualified .schema kind.schemaType, .fixed "\x7b\n"] =
      firstLine name kind := by
  have hcolon : ": schema." = ": " ++ ("schema" ++ ".") := rfl
  simp only [Source.text_cons, Source.text_nil, Chunk.text, Package.qualifier, firstLine, hcolon,
    String.append_assoc, String.append_empty]

theorem printParts_objectParts (object : NestedObject Node) (name : String) (kind : NestedKind) :
    printParts (object.objectParts name kind.isBlock) =
      "NestedObject: schema." ++ kind.objectType ++ "\x7b\n" ++
        printParts (object.childParts kind.isBlock) ++
        (CustomType.objectClause (Name.pascal name) object.customType).text ++
        object.planModifiers.planModifiersClause.text ++ object.validators.validatorsClause.text ++
        "\x7d,\n" := by
  have hopening : "NestedObject: schema." = "NestedObject: " ++ ("schema" ++ ".") := rfl
  have hclosing : Source.text Clause.closing = "\x7d,\n" := rfl
  simp only [NestedObject.objectParts, printParts_enclose, Source.text_append, Source.text_cons,
    Source.text_nil, Chunk.text, Package.qualifier, NestedKind.objectType, hopening, hclosing,
    String.append_assoc, String.append_empty]

theorem Node.print_eq (name : String) (node : Node) :
    node.print name =
      firstLine name node.kind ++ printParts (node.contentParts name) ++ node.facets.print ++
        "\x7d,\n" := by
  cases node with
  | scalar type f =>
    simp only [print, contentParts, printParts_cons, printParts_nil, Part.print, kind, facets,
      String.append_empty]
  | collection shape f element =>
    simp only [print, contentParts, printParts_cons, printParts_nil, Part.print, kind, facets,
      Source.text_append, String.append_empty, String.append_assoc]
  | object f types =>
    simp only [print, contentParts, printParts_cons, printParts_nil, Part.print, kind, facets,
      Source.text_append, String.append_empty, String.append_assoc]
  | nested nestedKind f object =>
    simp only [print, contentParts, kind, facets]
    split
    · simp only [printParts_append, printParts_childParts, printParts_cons, printParts_nil,
        Part.print, String.append_empty]
    · simp only [printParts_append, printParts_objectParts, printParts_childParts, printParts_cons,
        printParts_nil, Part.print, String.append_empty, String.append_assoc]

/-- One level of the recursion: a node is what its parts are. -/
theorem printParts_schemaParts (name : String) (node : Node) :
    printParts (node.schemaParts name) = node.print name := by
  rw [Node.schemaParts, printParts_enclose, text_firstLine, Source.text_append,
    NodeFacets.text_clauses, Node.print_eq, ← String.append_assoc]
  rfl

/-! ### The list of parts -/

/-- **The list of parts.**  Expanding prints what is done and then all parts, one after another. -/
theorem text_expand (done : Array Chunk) (parts : List Part) :
    Source.text (Node.expand done parts).toList = Source.text done.toList ++ printParts parts := by
  fun_induction Node.expand done parts with
  | case1 done => rw [printParts_nil, String.append_empty]
  | case2 done source parts ih =>
    rw [ih, Array.toList_appendList, Source.text_append, printParts_cons, Part.print,
      String.append_assoc]
  | case3 done name node parts ih =>
    -- the parts of a child take its place
    rw [ih, printParts_append, printParts_schemaParts, printParts_cons, Part.print]

theorem Node.schema_eq (name : String) (node : Node) : node.schema name = node.print name := by
  rw [schema, schemaSource, text_expand, printParts_cons, printParts_nil, Part.print,
    String.append_empty]
  exact String.empty_append

/-- Children print their own schemas, one after the other. -/
theorem printChildren_eq (children : Children Node) :
    printChildren children = String.join (children.map fun child => child.2.schema child.1) := by
  induction children with
  | nil => rfl
  | cons child rest ih =>
    rw [printChildren, ih, List.map_cons, String.join_cons, Node.schema_eq]

/-- A flag that has to be set. -/
example : (Node.scalar .bool
      { mode := some .required, planModifiers := ⟨.scalar .bool, []⟩,
        validators := ⟨.scalar .bool, []⟩ }).print "enabled" =
    "\"enabled\": schema.BoolAttribute\x7b\nRequired: true,\n\x7d,\n" := by
  decide

/-- One turn of the expansion: the first part is written, or its own parts take its place. -/
def Part.step : Array Chunk × List Part → Array Chunk × List Part
  | (done, []) => (done, [])
  | (done, .source s :: parts) => (done ++ s, parts)
  | (done, .node name child :: parts) => (done, child.schemaParts name ++ parts)

/-- After finitely many turns no part is left. -/
theorem Part.exists_iterate_step (done : Array Chunk) (parts : List Part) :
    ∃ turns, step^[turns] (done, parts) = (Node.expand done parts, []) := by
  fun_induction Node.expand done parts with
  | case1 done => exact ⟨0, rfl⟩
  | case2 done source parts ih | case3 done name node parts ih =>
    obtain ⟨turns, h⟩ := ih
    exact ⟨turns + 1, h⟩

/-! ### Children in one piece -/

/-- A text that stands in one piece in another one. -/
def Occurs (inner outer : String) : Prop := ∃ before after, outer = before ++ inner ++ after

theorem occurs_printParts {part : Part} {parts : List Part} (h : part ∈ parts) :
    Occurs part.print (printParts parts) := by
  obtain ⟨before, after, rfl⟩ := List.append_of_mem h
  refine ⟨printParts before, printParts after, ?_⟩
  rw [printParts_append, printParts_cons, String.append_assoc]

theorem Part.mem_enclose {part : Part} {parts : List Part} (h : part ∈ parts)
    (opening closing : Source) : part ∈ Part.enclose opening parts closing :=
  List.mem_append_left _ (List.mem_append_right _ h)

section Children

variable {object : NestedObject Node} {key : String} {child : Node}

theorem NestedObject.mem_childParts_attribute (h : (key, child) ∈ object.attributes)
    (isBlock : Bool) : Part.node key child ∈ object.childParts isBlock := by
  have hpart : Part.node key child ∈ object.attributeParts :=
    Part.mem_enclose (List.mem_map.mpr ⟨_, h, rfl⟩) _ _
  exact List.mem_append_left _ hpart

theorem NestedObject.mem_childParts_block (h : (key, child) ∈ object.blocks) :
    Part.node key child ∈ object.childParts true := by
  have hsome : object.blocks.isEmpty = false := List.isEmpty_eq_false_iff_exists_mem.mpr ⟨_, h⟩
  rw [childParts, if_pos rfl, blockParts, hsome]
  exact List.mem_append_right _ (Part.mem_enclose (List.mem_map.mpr ⟨_, h, rfl⟩) _ _)

/-- The parts of the children are among those of a nested node, single or not. -/
theorem Node.mem_schemaParts {kind : NestedKind} {part : Part}
    (h : part ∈ object.childParts kind.isBlock) (name : String) (f : NodeFacets) :
    part ∈ (Node.nested kind f object).schemaParts name := by
  refine Part.mem_enclose ?_ _ _
  simp only [contentParts]
  split
  · exact List.mem_append_left _ h
  · exact List.mem_append_left _ (Part.mem_enclose h _ _)

theorem Node.occurs_schema {node : Node} {name : String}
    (h : Part.node key child ∈ node.schemaParts name) :
    Occurs (child.schema key) (node.schema name) := by
  rw [schema_eq, schema_eq, ← printParts_schemaParts name node]
  exact occurs_printParts h

end Children

/-! ### Schemas -/

/-- **The text of a schema.**  The schema of a node is its text by recursion.  The schema of every
attribute of a nested node, and of every block of a node that can have blocks, stands in it in one
piece.  The parts that are still to be expanded come to an end. -/
theorem schema_eq_print :
    (∀ (node : Node) (name : String), node.schema name = node.print name) ∧
    (∀ children : Children Node,
      printChildren children = String.join (children.map fun child => child.2.schema child.1)) ∧
    (∀ (kind : NestedKind) (f : NodeFacets) (object : NestedObject Node) (name key : String)
      (child : Node), (key, child) ∈ object.attributes →
        Occurs (child.schema key) ((Node.nested kind f object).schema name)) ∧
    (∀ (kind : NestedKind) (f : NodeFacets) (object : NestedObject Node) (name key : String)
      (child : Node), kind.isBlock = true → (key, child) ∈ object.blocks →
        Occurs (child.schema key) ((Node.nested kind f object).schema name)) ∧
    ∀ (node : Node) (name : String), ∃ turns done,
      Part.step^[turns] (#[], [.node name node]) = (done, []) ∧
        Source.text done.toList = node.schema name := by
  refine ⟨fun node name => node.schema_eq name, printChildren_eq, ?_, ?_, ?_⟩
  · intro kind f object name key child h
    exact Node.occurs_schema (Node.mem_schemaParts (NestedObject.mem_childParts_attribute h _) _ _)
  · intro kind f object name key child hblock h
    have hpart := NestedObject.mem_childParts_block h
    rw [← hblock] at hpart
    exact Node.occurs_schema (Node.mem_schemaParts hpart _ _)
  · intro node name
    obtain ⟨turns, h⟩ := Part.exists_iterate_step #[] [.node name node]
    exact ⟨turns, _, h, rfl⟩

/-- A block with an attribute and a block. -/
def pairNode : Node :=
  let facets (kind : ValueKind) : NodeFacets :=
    { planModifiers := ⟨kind, []⟩, validators := ⟨kind, []⟩ }
  .nested (.blocks .list) (facets (.collection .list))
    { attributes := [("flag", .scalar .bool (facets (.scalar .bool)))]
      blocks := [("inner", .nested .singleBlock (facets .object) {})] }

/-- Both children of the block stand in its schema. -/
theorem schema_eq_print_pairNode :
    (∃ flag : Node, flag.kind = .scalar .bool ∧
      Occurs (flag.schema "flag") (pairNode.schema "pair")) ∧
    ∃ inner : Node, inner.kind = .nested .singleBlock ∧
      Occurs (inner.schema "inner") (pairNode.schema "pair") :=
  ⟨⟨_, rfl, schema_eq_print.2.2.1 _ _ _ "pair" "flag" (.scalar .bool _) (.head _)⟩,
    ⟨_, rfl, schema_eq_print.2.2.2.1 _ _ _ "pair" "inner" (.nested .singleBlock _ _) rfl (.head _)⟩⟩

end ProviderCode
