import ProviderCode.Proofs.ClosedText
import ProviderCode.Proofs.Preorder
import ProviderCode.Proofs.SchemaText
import ProviderCode.Resource.Tree

/-!
# Schemas are lexically closed

A schema takes over some texts as they are: the expressions of custom types, defaults, validators
and plan modifiers, and the names of the types that are generated for objects.  Everything else that
a specification gives stands in literals.

Main statement: if the expressions in a tree are closed and the names of its nested nodes plain, the
schema of the tree is closed, and so is the function that returns the schema of a resource.
-/

namespace ProviderCode

variable {oneLine : Bool}

/-! ### Expressions of a tree -/

namespace CustomType

/-- The expression of a type that may not be given. -/
def verbatims (custom : Option CustomType) : List String := (custom.map (·.type)).toList

end CustomType

namespace Extensions

def verbatims (extensions : Extensions) : List String := extensions.definitions.map (·.expression)

end Extensions

namespace DefaultValue

def verbatims : DefaultValue → List String
  | .custom d => [d.expression]
  | .bool _ | .float64 _ | .int64 _ | .string _ => []

end DefaultValue

namespace ElementType

mutual

/-- The custom types that are visible in an element type: none stands below another one. -/
def verbatims : ElementType → List String
  | .scalar _ (some custom) | .collection _ (some custom) _ | .object (some custom) _ =>
    [custom.type]
  | .scalar _ none => []
  | .collection _ none element => element.verbatims
  | .object none attributes => verbatimsOfAll attributes
termination_by structural type => type

def verbatimsOfAll : List (String × ElementType) → List String
  | [] => []
  | (_, type) :: rest => type.verbatims ++ verbatimsOfAll rest
termination_by structural types => types

end

end ElementType

def NodeFacets.verbatims (f : NodeFacets) : List String :=
  CustomType.verbatims f.customType ++ f.planModifiers.verbatims ++ f.validators.verbatims ++
    (f.default.map DefaultValue.verbatims).getD []

def NestedObject.verbatims (object : NestedObject Node) : List String :=
  CustomType.verbatims object.customType ++ object.planModifiers.verbatims ++
    object.validators.verbatims

/-- The expressions that a node gives, without those of its children. -/
def Node.verbatims : Node → List String
  | .scalar _ f => f.verbatims
  | .collection _ f element => f.verbatims ++ element.verbatims
  | .object f types => f.verbatims ++ ElementType.verbatimsOfAll types
  | .nested _ f body => f.verbatims ++ body.verbatims

/-- What a schema takes over from a node without quotes is closed: the expressions of the node, and
its name if a type is generated for it.  The name of a leaf may be any text. -/
structure Node.TakesClosed (oneLine : Bool) (name : String) (node : Node) : Prop where
  verbatims : ∀ e ∈ node.verbatims, Closed oneLine e
  name : node.object?.isSome = true → PlainName name

/-! ### Chunks and sources -/

section Sources

variable {source opening inner closing : Source} {before middle after : List Delimiter}

theorem Moves.cons {chunk : Chunk} (h : Moves oneLine chunk.text before middle)
    (hrest : Moves oneLine (Source.text source) middle after) :
    Moves oneLine (Source.text (chunk :: source)) before after := by
  rw [Source.text_cons]
  exact h.append hrest

theorem Closed.source_append (h : Closed oneLine opening.text) (h' : Closed oneLine inner.text) :
    Closed oneLine (Source.text (opening ++ inner)) := by
  rw [Source.text_append]
  exact h.append h'

/-- A closed source between what opens delimiters and what closes them. -/
theorem Closed.enclose (ha : Moves oneLine opening.text [] middle) (hb : Closed oneLine inner.text)
    (hc : Moves oneLine closing.text middle []) :
    Closed oneLine (Source.text (opening.enclose inner closing)) := by
  rw [Source.text_enclose]
  exact .between ha hb hc

theorem Closed.flatMap {α : Type} {f : α → Source} {as : List α}
    (h : ∀ a ∈ as, Closed oneLine (f a).text) : Closed oneLine (Source.text (as.flatMap f)) := by
  induction as with
  | nil => exact .nothing
  | cons a as ih =>
    rw [List.forall_mem_cons] at h
    exact h.1.source_append (ih h.2)

theorem closed_qualified (package : Package) {member : String} (h : Closed oneLine member) :
    Closed oneLine (Chunk.text (.qualified package member)) := by
  have hqualifier : Closed oneLine package.qualifier := by
    cases package <;> exact .given rfl
  have hpoint : Closed oneLine "." := .given rfl
  exact (hqualifier.append hpoint).append h

end Sources

/-! ### Framework names -/

theorem Scalar.closed_framework (type : Scalar) : Closed oneLine type.framework := by
  cases type <;> exact .given rfl

theorem Shape.closed_framework (shape : Shape) : Closed oneLine shape.framework := by
  cases shape <;> exact .given rfl

theorem ValueKind.closed_framework (kind : ValueKind) : Closed oneLine kind.framework := by
  cases kind with
  | scalar type => exact type.closed_framework
  | collection shape => exact shape.closed_framework
  | object => exact .given rfl

theorem NestedKind.closed_schemaType (kind : NestedKind) : Closed oneLine kind.schemaType := by
  cases kind with
  | attributes shape => exact shape.closed_framework.append (.given rfl)
  | singleAttribute => exact .given rfl
  | blocks shape => exact shape.toShape.closed_framework.append (.given rfl)
  | singleBlock => exact .given rfl

theorem NodeKind.closed_schemaType (kind : NodeKind) : Closed oneLine kind.schemaType := by
  cases kind with
  | scalar type => exact type.closed_framework.append (.given rfl)
  | collection shape => exact shape.closed_framework.append (.given rfl)
  | object => exact .given rfl
  | nested kind => exact kind.closed_schemaType

/-! ### Clauses -/

namespace Clause

theorem closed_mode (mode : Option Mode) : Closed oneLine (Clause.mode mode).text := by
  rcases mode with _ | _ | _ | _ | _
  · exact .nothing
  all_goals exact .cons (.given rfl) .nothing

theorem closed_sensitive (sensitive : Option Bool) :
    Closed oneLine (Clause.sensitive sensitive).text := by
  rcases sensitive with _ | _ | _
  · exact .nothing
  · exact .nothing
  · exact .cons (.given rfl) .nothing

theorem closed_description (description : Option String) :
    Closed oneLine (Clause.description description).text := by
  cases description with
  | none => exact .nothing
  | some text =>
    exact .cons (.given rfl) (.cons (closed_encode text) (.cons (.given rfl)
      (.cons (closed_encode text) (.cons (.given rfl) .nothing))))

theorem closed_deprecation (deprecation : Option String) :
    Closed oneLine (Clause.deprecation deprecation).text := by
  cases deprecation with
  | none => exact .nothing
  | some text =>
    exact .cons (.given rfl) (.cons (closed_encode text) (.cons (.given rfl) .nothing))

end Clause

namespace CustomType

theorem closed_clause? {custom : Option CustomType}
    (h : ∀ e ∈ verbatims custom, Closed oneLine e) : Closed oneLine (clause? custom).text := by
  cases custom with
  | none => exact .nothing
  | some custom =>
    have htype : Closed oneLine custom.type := h _ List.mem_cons_self
    exact .cons (.given rfl) (.cons htype (.cons (.given rfl) .nothing))

theorem closed_objectClause {name : String} {custom : Option CustomType}
    (hname : Closed oneLine name) (h : ∀ e ∈ verbatims custom, Closed oneLine e) :
    Closed oneLine (objectClause name custom).text := by
  cases custom with
  | some custom =>
    have hcustom : Closed oneLine (clause? (some custom)).text := closed_clause? h
    exact hcustom
  | none =>
    have hobject : Closed oneLine (Chunk.text (.qualified .types "ObjectType")) :=
      closed_qualified .types (.given rfl)
    -- the name stands outside the braces first, then in both of them
    exact .cons (.given rfl) (.cons hname (.cons (.given rfl) (.cons (hobject.anywhere [.brace])
      (.cons (.given rfl) (.cons (hname.anywhere [.brace, .brace])
        (.cons (.given rfl) .nothing))))))

end CustomType

namespace Extensions

/-- A list of definitions, in a field that opens nothing. -/
theorem closed_clause {extensions : Extensions} {field : String} {package : Package}
    (hfield : Closed oneLine field) (h : ∀ e ∈ extensions.verbatims, Closed oneLine e) :
    Closed oneLine (extensions.clause field package).text := by
  rw [clause]
  split
  · exact .nothing
  · have hkind : Closed oneLine (Chunk.text (.qualified package extensions.kind.framework)) :=
      closed_qualified package extensions.kind.closed_framework
    have hopening : Closed oneLine (field ++ ": []") := hfield.append (.given rfl)
    refine .enclose (.cons hopening (.cons hkind (.cons (.given rfl) .nothing))) (.flatMap ?_)
      (.cons (.given rfl) .nothing)
    intro d hd
    have hexpression : Closed oneLine d.expression := h _ (List.mem_map.mpr ⟨d, hd, rfl⟩)
    exact .cons hexpression (.cons (.given rfl) .nothing)

theorem closed_validatorsClause {extensions : Extensions}
    (h : ∀ e ∈ extensions.verbatims, Closed oneLine e) :
    Closed oneLine extensions.validatorsClause.text :=
  closed_clause (.given rfl) h

theorem closed_planModifiersClause {extensions : Extensions}
    (h : ∀ e ∈ extensions.verbatims, Closed oneLine e) :
    Closed oneLine extensions.planModifiersClause.text :=
  closed_clause (.given rfl) h

end Extensions

namespace DefaultValue

/-- A default that is made of a constant in parentheses. -/
theorem closed_static {package : Package} {member value : String} (hmember : Closed oneLine member)
    (h : Closed oneLine value) :
    Closed oneLine (Source.text [.qualified package member, .fixed ("(" ++ value ++ ")")]) := by
  have hvalue : Closed oneLine ("(" ++ value ++ ")") :=
    .between (.given rfl) h (.given rfl : Moves oneLine ")" [.paren] [])
  exact .cons (closed_qualified package hmember) (.cons hvalue .nothing)

theorem closed_expression {d : DefaultValue} (h : ∀ e ∈ d.verbatims, Closed oneLine e) :
    Closed oneLine d.expression.text := by
  cases d with
  | bool b => cases b <;> exact closed_static (.given rfl) (.given rfl)
  | float64 x => exact closed_static (.given rfl) (closed_of_numberText (.write floatLayout x))
  | int64 i => exact closed_static (.given rfl) (closed_of_numberText (.integer i.toInt))
  | string s =>
    have hliteral : Closed oneLine (Literal.encode s) := closed_encode s
    exact .cons (closed_qualified .stringdefault (.given rfl)) (.cons (.given rfl)
      (.cons (hliteral.anywhere [.paren]) (.cons (.given rfl) .nothing)))
  | custom d => exact .cons (h _ List.mem_cons_self) .nothing

theorem closed_clause {d : DefaultValue} (h : ∀ e ∈ d.verbatims, Closed oneLine e) :
    Closed oneLine d.clause.text :=
  .enclose (.cons (.given rfl) .nothing) (closed_expression h) (.cons (.given rfl) .nothing)

end DefaultValue

/-! ### Element types -/

namespace ElementType

theorem closed_mapExpression {entries : List (String × Source)}
    (h : ∀ entry ∈ entries, Closed oneLine entry.2.text) :
    Closed oneLine (mapExpression entries).text := by
  have htype : Closed oneLine (Chunk.text (.qualified .attr "Type")) :=
    closed_qualified .attr (.given rfl)
  refine .enclose (.cons (.given rfl) (.cons htype (.cons (.given rfl) .nothing))) (.flatMap ?_)
    (.cons (.given rfl) .nothing)
  intro entry hentry
  exact .enclose (.cons (closed_encode entry.1) (.cons (.given rfl) .nothing)) (h entry hentry)
    (.cons (.given rfl) .nothing)

mutual

theorem closed_expression : ∀ {type : ElementType}, (∀ e ∈ type.verbatims, Closed oneLine e) →
    Closed oneLine type.expression.text
  | .scalar _ (some custom), h | .collection _ (some custom) _, h | .object (some custom) _, h =>
    .cons (h custom.type List.mem_cons_self) .nothing
  | .scalar type none, _ => by
    have hname : Closed oneLine (type.framework ++ "Type") :=
      type.closed_framework.append (.given rfl)
    exact .cons (closed_qualified .types hname) .nothing
  | .collection shape none element, h => by
    have hname : Closed oneLine (shape.framework ++ "Type") :=
      shape.closed_framework.append (.given rfl)
    have helement : Closed oneLine element.expression.text := closed_expression h
    exact .enclose (.cons (closed_qualified .types hname) (.cons (.given rfl) .nothing)) helement
      (.cons (.given rfl) .nothing)
  | .object none attributes, h => by
    have hentries := closed_expressions h
    have hname : Closed oneLine (Chunk.text (.qualified .types "ObjectType")) :=
      closed_qualified .types (.given rfl)
    -- the order of the entries does not matter
    have hmap : Closed oneLine (mapExpression (byName (expressions attributes))).text :=
      closed_mapExpression fun entry hentry => hentries entry (List.mem_mergeSort.mp hentry)
    exact .enclose (.cons hname (.cons (.given rfl) .nothing)) hmap (.cons (.given rfl) .nothing)

theorem closed_expressions : ∀ {types : List (String × ElementType)},
    (∀ e ∈ verbatimsOfAll types, Closed oneLine e) →
      ∀ entry ∈ expressions types, Closed oneLine entry.2.text
  | [], _ => fun _ hentry => absurd hentry List.not_mem_nil
  | (name, type) :: rest, h => by
    have hall := List.forall_mem_append.mp h
    have htype : Closed oneLine type.expression.text := closed_expression hall.1
    intro entry hentry
    rcases List.mem_cons.mp hentry with rfl | hentry
    · exact htype
    · exact closed_expressions hall.2 entry hentry

end

end ElementType

namespace Clause

theorem closed_elementType {element : ElementType}
    (h : ∀ e ∈ element.verbatims, Closed oneLine e) :
    Closed oneLine (Clause.elementType element).text :=
  .enclose (.cons (.given rfl) .nothing) (ElementType.closed_expression h)
    (.cons (.given rfl) .nothing)

theorem closed_attributeTypes {types : List (String × ElementType)}
    (h : ∀ e ∈ ElementType.verbatimsOfAll types, Closed oneLine e) :
    Closed oneLine (Clause.attributeTypes types).text := by
  have hmap : Closed oneLine (AttributeTypes.expression types).text :=
    ElementType.closed_mapExpression (ElementType.closed_expressions h)
  exact .enclose (.cons (.given rfl) .nothing) hmap (.cons (.given rfl) .nothing)

end Clause

/-! ### Nodes -/

theorem closed_firstLine (name : String) (kind : NodeKind) :
    Moves oneLine (firstLine name kind) [] [.brace] := by
  have hname : Closed oneLine (Literal.encode name) := closed_encode name
  have hschema : Closed oneLine ": schema." := .given rfl
  have hbrace : Moves oneLine "\x7b\n" [] [.brace] := .given rfl
  exact Moves.append ((hname.append hschema).append kind.closed_schemaType) hbrace

theorem NodeFacets.forall_customType {f : NodeFacets} {p : String → Prop}
    (h : ∀ e ∈ f.verbatims, p e) : ∀ e ∈ CustomType.verbatims f.customType, p e := fun e he =>
  h e (List.mem_append_left _ (List.mem_append_left _ (List.mem_append_left _ he)))

theorem NodeFacets.closed_print {f : NodeFacets} (h : ∀ e ∈ f.verbatims, Closed oneLine e) :
    Closed oneLine f.print := by
  rw [verbatims, List.forall_mem_append, List.forall_mem_append, List.forall_mem_append] at h
  obtain ⟨⟨⟨-, hplans⟩, hvalidators⟩, hdefault⟩ := h
  refine Closed.append ((((((Clause.closed_mode _).append (Clause.closed_sensitive _)).append
    (Clause.closed_description _)).append (Clause.closed_deprecation _)).append
    (Extensions.closed_planModifiersClause hplans)).append
    (Extensions.closed_validatorsClause hvalidators)) ?_
  cases hd : f.default with
  | none => exact .nothing
  | some d =>
    rw [hd] at hdefault
    exact DefaultValue.closed_clause hdefault

theorem closed_childrenText {attributes blocks : String} {hasBlocks : Bool}
    (ha : Closed oneLine attributes) (hb : Closed oneLine blocks) :
    Closed oneLine (childrenText attributes hasBlocks blocks) := by
  have hblocks : Closed oneLine
      ("Blocks: map[string]schema.Block\x7b\n" ++ blocks ++ "\x7d,\n") :=
    .between (.given rfl) hb (.given rfl : Moves oneLine "\x7d,\n" [.brace] [])
  have hattributes : Closed oneLine
      ("Attributes: map[string]schema.Attribute\x7b\n" ++ attributes ++ "\x7d,\n") :=
    .between (.given rfl) ha (.given rfl : Moves oneLine "\x7d,\n" [.brace] [])
  refine hattributes.append ?_
  cases hasBlocks with
  | true => exact hblocks
  | false => exact .nothing

/-- A node is closed if what stands between its first line and its facets is. -/
theorem closed_node {name content : String} {kind : NodeKind} {f : NodeFacets}
    (hcontent : Closed oneLine content) (hf : ∀ e ∈ f.verbatims, Closed oneLine e) :
    Closed oneLine (firstLine name kind ++ content ++ f.print ++ "\x7d,\n") := by
  have hinner := hcontent.append (NodeFacets.closed_print hf)
  have hclosing : Moves oneLine "\x7d,\n" [.brace] [] := .given rfl
  have hassoc : firstLine name kind ++ content ++ f.print =
      firstLine name kind ++ (content ++ f.print) := String.append_assoc
  rw [hassoc]
  exact .between (closed_firstLine name kind) hinner hclosing

/-- The object that a collection repeats. -/
theorem NestedObject.closed_objectParts {body : NestedObject Node} {name : String}
    {kind : NestedKind} (hname : PlainName name) (h : ∀ e ∈ body.verbatims, Closed oneLine e)
    (hchildren : Closed oneLine (printParts (body.childParts kind.isBlock))) :
    Closed oneLine (printParts (body.objectParts name kind.isBlock)) := by
  rw [verbatims, List.forall_mem_append, List.forall_mem_append] at h
  obtain ⟨⟨hcustom, hplans⟩, hvalidators⟩ := h
  have htype : Closed oneLine kind.objectType := by
    rw [NestedKind.objectType]
    split <;> exact .given rfl
  have hfield : Closed oneLine "NestedObject: schema." := .given rfl
  have hbrace : Moves oneLine "\x7b\n" [] [.brace] := .given rfl
  have hclosing : Moves oneLine "\x7d,\n" [.brace] [] := .given rfl
  have hinner := ((hchildren.append
    (CustomType.closed_objectClause (closed_pascal hname) hcustom)).append
    (Extensions.closed_planModifiersClause hplans)).append
    (Extensions.closed_validatorsClause hvalidators)
  rw [printParts_objectParts]
  simpa only [String.append_assoc] using
    Closed.between (Moves.append (hfield.append htype) hbrace) hinner hclosing

/-- What stands between the first line of a node and its facets is closed if its children are. -/
theorem Node.closed_content {name : String} {node : Node} (h : node.TakesClosed oneLine name)
    (hchildren : ∀ body, node.object? = some body →
      Closed oneLine (printChildren body.attributes) ∧
        Closed oneLine (printChildren body.blocks)) :
    Closed oneLine (printParts (node.contentParts name)) := by
  have hsource {s : Source} (hs : Closed oneLine s.text) :
      Closed oneLine (printParts [.source s]) := by
    rw [printParts_cons]
    exact hs.append .nothing
  have hall := h.verbatims
  cases node with
  | scalar type f =>
    have hf := NodeFacets.forall_customType hall
    exact hsource (CustomType.closed_clause? hf)
  | collection shape f element =>
    rw [verbatims, List.forall_mem_append] at hall
    have hf := NodeFacets.forall_customType hall.1
    exact hsource ((Clause.closed_elementType hall.2).source_append (CustomType.closed_clause? hf))
  | object f types =>
    rw [verbatims, List.forall_mem_append] at hall
    have hf := NodeFacets.forall_customType hall.1
    exact hsource
      ((Clause.closed_attributeTypes hall.2).source_append (CustomType.closed_clause? hf))
  | nested kind f body =>
    rw [verbatims, List.forall_mem_append] at hall
    obtain ⟨hf, hbody⟩ := hall
    obtain ⟨has, hbs⟩ := hchildren body rfl
    have hname : PlainName name := h.name rfl
    have hparts : Closed oneLine (printParts (body.childParts kind.isBlock)) := by
      rw [printParts_childParts]
      exact closed_childrenText has hbs
    rw [contentParts]
    split
    · have hcustom : ∀ e ∈ CustomType.verbatims body.customType, Closed oneLine e := fun e he =>
        hbody e (List.mem_append_left _ (List.mem_append_left _ he))
      rw [printParts_append]
      exact hparts.append (hsource (CustomType.closed_objectClause (closed_pascal hname) hcustom))
    · rw [printParts_append]
      exact (NestedObject.closed_objectParts hname hbody hparts).append
        (hsource (CustomType.closed_clause? (NodeFacets.forall_customType hf)))

/-- A node is closed if it takes over closed texts only and its children are closed. -/
theorem Node.closed_of_children {name : String} {node : Node} (h : node.TakesClosed oneLine name)
    (hchildren : ∀ body, node.object? = some body →
      Closed oneLine (printChildren body.attributes) ∧
        Closed oneLine (printChildren body.blocks)) :
    Closed oneLine (node.print name) := by
  have hf : ∀ e ∈ node.facets.verbatims, Closed oneLine e := by
    intro e he
    refine h.verbatims e ?_
    cases node with
    | scalar type f => exact he
    | _ => exact List.mem_append_left _ he
  rw [print_eq]
  exact closed_node (closed_content h hchildren) hf

mutual

/-- The text of a tree is closed if all its nodes take over closed texts only. -/
theorem Node.closed_print {name : String} : ∀ {node : Node},
    (∀ c ∈ node.walk name, c.2.TakesClosed oneLine c.1) → Closed oneLine (node.print name)
  | .scalar _ _, h | .collection _ _ _, h | .object _ _, h =>
    Node.closed_of_children (h _ List.mem_cons_self) fun _ hnone => nomatch hnone
  | .nested kind f ⟨external, customType, planModifiers, validators, as, bs⟩, h => by
    obtain ⟨hself, hrest⟩ := List.forall_mem_cons.mp h
    obtain ⟨has, hbs⟩ := List.forall_mem_append.mp hrest
    have hattributes : Closed oneLine (printChildren as) := closed_printChildren has
    have hblocks : Closed oneLine (printChildren bs) := closed_printChildren hbs
    refine Node.closed_of_children hself fun body hbody => ?_
    cases hbody
    exact ⟨hattributes, hblocks⟩

theorem closed_printChildren : ∀ {children : Children Node},
    (∀ c ∈ Node.walkAll children, c.2.TakesClosed oneLine c.1) →
      Closed oneLine (printChildren children)
  | [], _ => .nothing
  | (name, node) :: rest, h => by
    have hall := List.forall_mem_append.mp h
    have hnode : Closed oneLine (node.print name) := Node.closed_print hall.1
    exact hnode.append (closed_printChildren hall.2)

end

/-! ### Resources -/

namespace ResourceTree

theorem text_childSchemas (children : Children Node) :
    (childSchemas children).text = printChildren children := by
  induction children with
  | nil => rfl
  | cons child rest ih =>
    rw [childSchemas, List.flatMap_cons, Source.text_append]
    exact congrArg₂ (· ++ ·) (child.2.schema_eq child.1) ih

theorem closed_childSchemas {children : Children Node}
    (h : ∀ c ∈ Node.walkAll children, c.2.TakesClosed oneLine c.1) :
    Closed oneLine (childSchemas children).text := by
  rw [text_childSchemas]
  exact closed_printChildren h

theorem closed_schemaOpening {tree : ResourceTree} (hname : PlainName tree.name) :
    Moves oneLine tree.schemaOpening.text [] [.brace, .brace] := by
  have hpascal : Closed oneLine (Name.pascal tree.name) := closed_pascal hname
  have hcontext : Closed oneLine (Chunk.text (.qualified .context "Context")) :=
    closed_qualified .context (.given rfl)
  have hschema : Closed oneLine (Chunk.text (.qualified .schema "Schema")) :=
    closed_qualified .schema (.given rfl)
  exact .cons (.given rfl) (.cons hpascal (.cons (.given rfl) (.cons (hcontext.anywhere [.paren])
    (.cons (.given rfl) (.cons hschema (.cons (.given rfl) (.cons (hschema.anywhere [.brace])
      (.cons (.given rfl) .nothing))))))))

/-- The function that returns a schema is closed if the texts of its children are. -/
theorem closed_schemaSource {tree : ResourceTree} (hname : PlainName tree.name)
    (has : Closed oneLine (childSchemas tree.attributes).text)
    (hbs : Closed oneLine (childSchemas tree.blocks).text) :
    Closed oneLine tree.schemaSource.text := by
  have hchildren {opening children : Source} (hopening : Moves oneLine opening.text [] [.brace])
      (h : Closed oneLine children.text) :
      Closed oneLine (Source.text (opening.enclose children Clause.closing)) :=
    .enclose hopening h (.cons (.given rfl) .nothing)
  have hattributes : Closed oneLine tree.attributesClause.text := by
    have hqualified : Closed oneLine (Chunk.text (.qualified .schema "Attribute")) :=
      closed_qualified .schema (.given rfl)
    exact hchildren (.cons (.given rfl) (.cons hqualified (.cons (.given rfl) .nothing))) has
  have hblocks : Closed oneLine tree.blocksClause.text := by
    have hqualified : Closed oneLine (Chunk.text (.qualified .schema "Block")) :=
      closed_qualified .schema (.given rfl)
    rw [blocksClause]
    split
    · exact .nothing
    · exact hchildren (.cons (.given rfl) (.cons hqualified (.cons (.given rfl) .nothing))) hbs
  have hinner := ((hattributes.source_append hblocks).source_append
    (Clause.closed_description tree.description)).source_append
    (Clause.closed_deprecation tree.deprecation)
  exact .enclose (closed_schemaOpening hname) hinner (.cons (.given rfl) .nothing)

end ResourceTree

/-! ### The theorem -/

/-- **Schemas are lexically closed.**  If the expressions that the nodes of a tree give are closed
and the names of the nested ones plain, all delimiters in the schema of the tree are properly nested
and all literals end; the same holds of the function that returns the schema of a resource.  Names
of leaves, names of attribute types, descriptions, deprecation messages and default strings may be
any texts. -/
theorem closed_schema (oneLine : Bool) :
    (∀ (node : Node) (name : String),
      (∀ c ∈ node.preorder name, c.2.TakesClosed oneLine c.1) →
        Closed oneLine (node.schema name)) ∧
    ∀ tree : ResourceTree, PlainName tree.name →
      (∀ child ∈ tree.attributes ++ tree.blocks, ∀ c ∈ child.2.preorder child.1,
        c.2.TakesClosed oneLine c.1) →
          Closed oneLine tree.schema := by
  refine ⟨fun node name h => ?_, fun tree hname h => ?_⟩
  · rw [Node.preorder_eq] at h
    rw [Node.schema_eq]
    exact Node.closed_print h
  · have hwalk : ∀ c ∈ Node.walkAll (tree.attributes ++ tree.blocks),
        c.2.TakesClosed oneLine c.1 := fun c hc => by
      obtain ⟨child, hchild, hin⟩ := Node.mem_walkAll.mp hc
      exact h child hchild c (Node.preorder_eq child.1 child.2 ▸ hin)
    rw [Node.walkAll_append, List.forall_mem_append] at hwalk
    exact ResourceTree.closed_schemaSource hname (ResourceTree.closed_childSchemas hwalk.1)
      (ResourceTree.closed_childSchemas hwalk.2)

/-- A list of blocks with delimiters in its description, its validator and the name of its leaf. -/
def quotedBlock : Node :=
  .nested (.blocks .list)
    { description := some "a \"rule\" \x7d\n\\"
      planModifiers := ⟨.collection .list, []⟩
      validators := ⟨.collection .list, [⟨[], "rule.Check(\")\")"⟩]⟩ }
    { attributes := [
        ("a]\"", .scalar .string
          { default := some (.string "("), planModifiers := ⟨.scalar .string, []⟩,
            validators := ⟨.scalar .string, []⟩ })] }

/-- The schema of the blocks is closed, and so is that of a resource with them. -/
theorem closed_schema_quotedBlock :
    Closed true (quotedBlock.schema "rule") ∧
      Closed true (ResourceTree.mk "rule_set" [] [("rule", quotedBlock)] none none).schema := by
  have hall : ∀ c ∈ quotedBlock.preorder "rule", c.2.TakesClosed true c.1 := by
    rw [Node.preorder_eq]
    refine List.forall_mem_cons.mpr ⟨⟨fun e he => ?_, fun _ => by decide⟩,
      List.forall_mem_cons.mpr ⟨⟨fun e he => ?_, fun hsome => ?_⟩, fun c hc => ?_⟩⟩
    · rw [List.mem_singleton.mp he]
      exact .given rfl
    · exact absurd he List.not_mem_nil
    · exact absurd hsome Bool.false_ne_true
    · exact absurd hc List.not_mem_nil
  refine ⟨(closed_schema true).1 quotedBlock "rule" hall,
    (closed_schema true).2 _ (by decide) fun child hchild => ?_⟩
  rw [List.mem_singleton.mp hchild]
  exact hall

end ProviderCode
