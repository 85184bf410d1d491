import ProviderCode.Node.Schema
import ProviderCode.Proofs.FrameworkPackages
import ProviderCode.Proofs.NumberText
import ProviderCode.Proofs.Qualifiers

/-!
# Packages that schemas use

Besides the packages of schemas, validators and plan modifiers, the schema of a node uses those that
the node and its descendants need: for types that are generated, for the types of elements, and for
defaults.

* `ElementType.within_expression`, `DefaultValue.within_clause`: the expressions of a specification.
* `SchemaPackages.schemaSource`: the schema of a node.
-/

namespace ProviderCode

variable {allowed : Package → Prop}

/-! ### Names of the framework -/

theorem Scalar.isName_framework (type : Scalar) : IsName type.framework := by
  cases type <;> decide

theorem Shape.isName_framework (shape : Shape) : IsName shape.framework := by
  cases shape <;> decide

theorem ValueKind.isName_framework : ∀ kind : ValueKind, IsName kind.framework
  | .scalar type => type.isName_framework
  | .collection shape => shape.isName_framework
  | .object => by decide

theorem NodeKind.isName_schemaType : ∀ kind : NodeKind, IsName kind.schemaType
  | .scalar type => type.isName_framework.append (by decide)
  | .collection shape => shape.isName_framework.append (by decide)
  | .object => by decide
  | .nested (.attributes shape) => shape.isName_framework.append (by decide)
  | .nested (.blocks shape) => shape.toShape.isName_framework.append (by decide)
  | .nested .singleAttribute | .nested .singleBlock => by decide

/-! ### Facets -/

theorem Chunk.Within.number {text : String} (h : Decimal.NumberText text) :
    (Chunk.fixed ("(" ++ text ++ ")")).Within allowed := by
  have hparens : Decimal.NumberText text ∧ ("(" ++ text ++ ")").toList = '(' :: text.toList ++ [')'] := by
    refine ⟨h, ?_⟩
    rw [String.toList_append, String.toList_append]
    rfl
  refine .lettersMissing ?_ fun p => ?_
  · -- the last character ends every word
    rw [hparens.2, List.map_append, Place.after_append]
    exact congrArg Place.clear (Place.next_free fun c (hc : some ')' = some c) => by cases hc; decide)
  · have hletter : p.letters.any (fun c => !Decimal.inNumber c && c != '(' && c != ')') = true := by
      cases p <;> decide
    obtain ⟨c, hc, hother⟩ := List.any_eq_true.mp hletter
    simp only [Bool.and_eq_true, Bool.not_eq_true', bne_iff_ne] at hother
    obtain ⟨⟨hother, hopen⟩, hclose⟩ := hother
    refine ⟨c, hc, fun hmem => ?_⟩
    rw [hparens.2] at hmem
    simp only [List.cons_append, List.mem_cons, List.mem_append, List.not_mem_nil, or_false, hopen,
      hclose, false_or] at hmem
    rw [h c hmem] at hother
    cases hother

namespace Clause

theorem within_mode (mode : Option Mode) : (Clause.mode mode).Within allowed := by
  rcases mode with _ | _ | _ | _ | _
  · exact Source.within_nil
  all_goals exact Source.within_cons.mpr ⟨.plain (by decide), Source.within_nil⟩

theorem within_sensitive (sensitive : Option Bool) : (Clause.sensitive sensitive).Within allowed := by
  rcases sensitive with _ | _ | _
  · exact Source.within_nil
  · exact Source.within_nil
  · exact Source.within_cons.mpr ⟨.plain (by decide), Source.within_nil⟩

theorem within_description (text : Option String) : (Clause.description text).Within allowed := by
  cases text with
  | none => exact Source.within_nil
  | some text =>
    simp only [Clause.description, Source.within_cons]
    exact ⟨.plain (by decide), .literal _, .plain (by decide), .literal _, .plain (by decide),
      Source.within_nil⟩

theorem within_deprecation (text : Option String) : (Clause.deprecation text).Within allowed := by
  cases text with
  | none => exact Source.within_nil
  | some text =>
    simp only [Clause.deprecation, Source.within_cons]
    exact ⟨.plain (by decide), .literal _, .plain (by decide), Source.within_nil⟩

end Clause

namespace CustomType

theorem within_clause? (custom : Option CustomType) : (clause? custom).Within allowed := by
  cases custom with
  | none => exact Source.within_nil
  | some custom =>
    simp only [clause?, clause, Source.within_cons]
    exact ⟨.plain (by decide), .verbatim _, .plain (by decide), Source.within_nil⟩

/-- The clause of an object uses the framework's types if the type is generated. -/
theorem within_objectClause (name : String) {custom : Option CustomType}
    (h : custom = none → allowed .types) : (objectClause name custom).Within allowed := by
  cases custom with
  | some custom => exact within_clause? (some custom)
  | none =>
    simp only [objectClause, Source.within_cons]
    exact ⟨.plain (by decide), .name _, .plain (by decide), .qualified (h rfl) (by decide),
      .plain (by decide), .name _, .plain (by decide), Source.within_nil⟩

end CustomType

theorem DefaultValue.within_clause {d : DefaultValue} (h : ∀ p, d.package? = some p → allowed p) :
    d.clause.Within allowed := by
  have hexpression : d.expression.Within allowed := by
    cases d with
    | bool b =>
      simp only [expression, Source.within_cons]
      refine ⟨.qualified (h _ rfl) (by decide), ?_, Source.within_nil⟩
      cases b
      · exact .plain (by decide : fits [] ['(', 'f', 'a', 'l', 's', 'e', ')'] = true)
      · exact .plain (by decide : fits [] ['(', 't', 'r', 'u', 'e', ')'] = true)
    | float64 x =>
      simp only [expression, Source.within_cons]
      exact ⟨.qualified (h _ rfl) (by decide), .number (.write _ x), Source.within_nil⟩
    | int64 i =>
      simp only [expression, Source.within_cons]
      exact ⟨.qualified (h _ rfl) (by decide), .number (.integer _), Source.within_nil⟩
    | string s =>
      simp only [expression, Source.within_cons]
      exact ⟨.qualified (h _ rfl) (by decide), .plain (by decide), .literal _, .plain (by decide),
        Source.within_nil⟩
    | custom d => exact Source.within_cons.mpr ⟨.verbatim _, Source.within_nil⟩
  simp only [clause, Source.within_enclose, Source.within_cons]
  exact ⟨⟨.plain (by decide), Source.within_nil⟩, hexpression, .plain (by decide), Source.within_nil⟩

/-- A list of validators or plan modifiers uses its package. -/
theorem Extensions.within_clause {field : String} {package : Package} (extensions : Extensions)
    (hfield : (Chunk.fixed (field ++ ": []")).Within allowed) (hpackage : allowed package) :
    (extensions.clause field package).Within allowed := by
  have hdefinitions : Source.Within allowed (extensions.definitions.flatMap fun d =>
      [.verbatim d.expression, .fixed ",\n"]) :=
    Source.within_flatMap fun d _ =>
      Source.within_cons.mpr ⟨.verbatim _, Source.within_cons.mpr ⟨.plain (by decide), Source.within_nil⟩⟩
  unfold clause
  split
  · exact Source.within_nil
  · simp only [Source.within_enclose, Source.within_cons]
    exact ⟨⟨hfield, .qualified hpackage extensions.kind.isName_framework, .plain (by decide), Source.within_nil⟩, hdefinitions,
      .plain (by decide), Source.within_nil⟩

/-! ### Element types -/

namespace ElementType

theorem within_mapExpression {entries : List (String × Source)} (hattr : allowed .attr)
    (h : ∀ entry ∈ entries, entry.2.Within allowed) : (mapExpression entries).Within allowed := by
  have hentries : Source.Within allowed (entries.flatMap fun entry =>
      Source.enclose [.literal entry.1, .fixed ": "] entry.2 [.fixed ",\n"]) := by
    refine Source.within_flatMap fun entry hentry => ?_
    simp only [Source.within_enclose, Source.within_cons]
    exact ⟨⟨.literal _, .plain (by decide), Source.within_nil⟩, h entry hentry, .plain (by decide),
      Source.within_nil⟩
  simp only [mapExpression, Source.within_enclose, Source.within_cons]
  exact ⟨⟨.plain (by decide), .qualified hattr (by decide), .plain (by decide), Source.within_nil⟩,
    hentries, .plain (by decide), Source.within_nil⟩

mutual

/-- The expression of an element type uses what the type needs. -/
theorem within_expression : ∀ {type : ElementType}, (∀ p, type.Needs p → allowed p) →
    type.expression.Within allowed
  | .scalar _ (some _), _ | .collection _ (some _) _, _ | .object (some _) _, _ =>
    Source.within_cons.mpr ⟨.verbatim _, Source.within_nil⟩
  | .scalar type none, h => by
    have hmember : IsName (type.framework ++ "Type") := type.isName_framework.append (by decide)
    exact Source.within_cons.mpr ⟨.qualified (h _ (.types rfl)) hmember, Source.within_nil⟩
  | .collection shape none element, h => by
    have hmember : IsName (shape.framework ++ "Type") := shape.isName_framework.append (by decide)
    have helement : element.expression.Within allowed :=
      within_expression fun p hp => h p (.element hp)
    simp only [expression, Source.within_enclose, Source.within_cons]
    exact ⟨⟨.qualified (h _ (.types rfl)) hmember, .plain (by decide), Source.within_nil⟩, helement,
      .plain (by decide), Source.within_nil⟩
  | .object none attributes, h => by
    have hmap : (mapExpression (byName (expressions attributes))).Within allowed :=
      within_mapExpression (h _ .attr) fun entry hentry =>
        within_expressions (fun named hnamed p hp => h p (.entry hnamed hp)) entry
          (List.mem_mergeSort.mp hentry)
    simp only [expression, Source.within_enclose, Source.within_cons]
    exact ⟨⟨.qualified (h _ (.types rfl)) (by decide), .plain (by decide), Source.within_nil⟩, hmap,
      .plain (by decide), Source.within_nil⟩

theorem within_expressions : ∀ {types : List (String × ElementType)},
    (∀ named ∈ types, ∀ p, named.2.Needs p → allowed p) →
      ∀ entry ∈ expressions types, entry.2.Within allowed
  | [], _, _, h => absurd h List.not_mem_nil
  | (name, type) :: rest, hneeds, entry, h => by
    obtain ⟨htype, hrest⟩ := List.forall_mem_cons.mp hneeds
    rcases List.mem_cons.mp h with rfl | h
    · exact within_expression htype
    · exact within_expressions hrest entry h

end

end ElementType

theorem AttributeTypes.within_expression {types : List (String × ElementType)}
    (h : ∀ p, AttributeTypes.Needs types p → allowed p) :
    (AttributeTypes.expression types).Within allowed :=
  ElementType.within_mapExpression (h _ (.inl rfl))
    (ElementType.within_expressions fun named hnamed p hp => h p (.inr ⟨named, hnamed, hp⟩))

/-! ### Schemas -/

/-- A package that the schema of a node uses for what the node needs, besides the lists of validators
and plan modifiers. -/
inductive Node.SchemaNeeds (node : Node) : Package → Prop
  | elementType {shape : Shape} {f : NodeFacets} {element : ElementType} {p : Package}
      (eq : node = .collection shape f element) (h : element.Needs p) : node.SchemaNeeds p
  | attributeTypes {f : NodeFacets} {types : List (String × ElementType)} {p : Package}
      (eq : node = .object f types) (h : AttributeTypes.Needs types p) : node.SchemaNeeds p
  | default {d : DefaultValue} {p : Package} (given : node.facets.default = some d)
      (h : d.package? = some p) : node.SchemaNeeds p
  | objectType {object : NestedObject Node} (owned : node.object? = some object)
      (plain : object.customType = none) : node.SchemaNeeds .types

theorem Node.SchemaNeeds.needs {node : Node} {p : Package} (h : node.SchemaNeeds p) : node.Needs p := by
  cases h with
  | elementType eq h => exact .elementType eq h
  | attributeTypes eq h => exact .attributeTypes eq h
  | default given h => exact .default given h
  | objectType owned plain => exact .objectType owned plain

/-- The packages that every schema may use, whatever its nodes need. -/
structure SchemaPackages (allowed : Package → Prop) : Prop where
  schema : allowed .schema
  planmodifier : allowed .planmodifier
  validator : allowed .validator

/-- A part that uses allowed packages: a source that does, or a node such that the schemas of it and its
descendants need no others. -/
def Part.Allowed (allowed : Package → Prop) : Part → Prop
  | .source s => s.Within allowed
  | .node _ child => ∀ inner, child.Reaches inner → ∀ p, inner.SchemaNeeds p → allowed p

theorem Part.allowed_enclose {opening closing : Source} {parts : List Part} :
    (∀ part ∈ Part.enclose opening parts closing, part.Allowed allowed) ↔
      opening.Within allowed ∧ (∀ part ∈ parts, part.Allowed allowed) ∧ closing.Within allowed := by
  simp only [Part.enclose, List.forall_mem_append, List.forall_mem_cons, List.not_mem_nil,
    false_imp_iff, implies_true, and_true, and_assoc]
  rfl

theorem Clause.within_closing : Clause.closing.Within allowed :=
  Source.within_cons.mpr ⟨.plain (by decide), Source.within_nil⟩

namespace SchemaPackages

variable (h : SchemaPackages allowed)

include h

theorem planModifiersClause (extensions : Extensions) :
    extensions.planModifiersClause.Within allowed :=
  extensions.within_clause
    (.plain (by decide : fits [] ['P', 'l', 'a', 'n', 'M', 'o', 'd', 'i', 'f', 'i', 'e', 'r', 's',
      ':', ' ', '[', ']'] = true)) h.planmodifier

theorem validatorsClause (extensions : Extensions) : extensions.validatorsClause.Within allowed :=
  extensions.within_clause
    (.plain (by decide : fits [] ['V', 'a', 'l', 'i', 'd', 'a', 't', 'o', 'r', 's', ':', ' ', '[',
      ']'] = true)) h.validator

/-- The clauses of the facets use the package of the default. -/
theorem facets {f : NodeFacets}
    (hdefault : ∀ d, f.default = some d → ∀ p, d.package? = some p → allowed p) :
    f.clauses.Within allowed := by
  have hclause : Source.Within allowed ((f.default.map DefaultValue.clause).getD []) := by
    cases hd : f.default with
    | none => exact Source.within_nil
    | some d => exact DefaultValue.within_clause (hdefault d hd)
  simp only [NodeFacets.clauses, Source.within_append]
  exact ⟨⟨⟨⟨⟨⟨Clause.within_mode _, Clause.within_sensitive _⟩, Clause.within_description _⟩,
    Clause.within_deprecation _⟩, h.planModifiersClause _⟩, h.validatorsClause _⟩, hclause⟩

theorem attributesOpening : Clause.attributesOpening.Within allowed := by
  simp only [Clause.attributesOpening, Source.within_cons]
  exact ⟨.plain (by decide), .qualified h.schema (by decide), .plain (by decide), Source.within_nil⟩

theorem blocksOpening : Clause.blocksOpening.Within allowed := by
  simp only [Clause.blocksOpening, Source.within_cons]
  exact ⟨.plain (by decide), .qualified h.schema (by decide), .plain (by decide), Source.within_nil⟩

/-- The children of an object in its clauses. -/
theorem childParts {object : NestedObject Node} (isBlock : Bool)
    (hchildren : ∀ child ∈ object.children, (Part.node child.1 child.2).Allowed allowed) :
    ∀ part ∈ object.childParts isBlock, part.Allowed allowed := by
  have hattributes : ∀ part ∈ object.attributeParts, part.Allowed allowed := by
    refine Part.allowed_enclose.mpr ⟨h.attributesOpening, fun part hpart => ?_, Clause.within_closing⟩
    obtain ⟨child, hchild, rfl⟩ := List.mem_map.mp hpart
    exact hchildren child (List.mem_append_left _ hchild)
  have hblocks : ∀ part ∈ object.blockParts, part.Allowed allowed := by
    unfold NestedObject.blockParts
    split
    · exact fun _ hpart => absurd hpart List.not_mem_nil
    · refine Part.allowed_enclose.mpr ⟨h.blocksOpening, fun part hpart => ?_, Clause.within_closing⟩
      obtain ⟨child, hchild, rfl⟩ := List.mem_map.mp hpart
      exact hchildren child (List.mem_append_right _ hchild)
  refine List.forall_mem_append.mpr ⟨hattributes, ?_⟩
  cases isBlock with
  | true => exact hblocks
  | false => exact fun _ hpart => absurd hpart List.not_mem_nil

/-- One level of the recursion: the parts of a node use what the node needs. -/
theorem schemaParts {name : String} {node : Node} (hneeds : ∀ p, node.SchemaNeeds p → allowed p)
    (hchildren : ∀ child ∈ node.children, (Part.node child.1 child.2).Allowed allowed) :
    ∀ part ∈ node.schemaParts name, part.Allowed allowed := by
  have hclosing : (node.facets.clauses ++ Clause.closing).Within allowed :=
    Source.within_append.mpr
      ⟨h.facets fun d hd p hp => hneeds p (.default hd hp), Clause.within_closing⟩
  have hsource : ∀ {s : Source}, s.Within allowed → ∀ part ∈ [Part.source s], part.Allowed allowed := by
    intro s hs part hpart
    obtain rfl := List.mem_singleton.mp hpart
    exact hs
  refine Part.allowed_enclose.mpr ⟨?_, ?_, hclosing⟩
  · simp only [Source.within_cons]
    exact ⟨.literal _, .plain (by decide), .qualified h.schema node.kind.isName_schemaType, .plain (by decide),
      Source.within_nil⟩
  · cases node with
    | scalar type f => exact hsource (CustomType.within_clause? _)
    | collection shape f element =>
      have helement : element.expression.Within allowed :=
        ElementType.within_expression fun p hp => hneeds p (.elementType rfl hp)
      refine hsource (Source.within_append.mpr ⟨?_, CustomType.within_clause? _⟩)
      simp only [Clause.elementType, Source.within_enclose, Source.within_cons]
      exact ⟨⟨.plain (by decide), Source.within_nil⟩, helement, .plain (by decide), Source.within_nil⟩
    | object f types =>
      have hmap : (AttributeTypes.expression types).Within allowed :=
        AttributeTypes.within_expression fun p hp => hneeds p (.attributeTypes rfl hp)
      refine hsource (Source.within_append.mpr ⟨?_, CustomType.within_clause? _⟩)
      simp only [Clause.attributeTypes, Source.within_enclose, Source.within_cons]
      exact ⟨⟨.plain (by decide), Source.within_nil⟩, hmap, .plain (by decide), Source.within_nil⟩
    | nested kind f object =>
      have hobject : (CustomType.objectClause (Name.pascal name) object.customType).Within allowed :=
        CustomType.within_objectClause _ fun hnone => hneeds _ (.objectType rfl hnone)
      have hparts := h.childParts kind.isBlock hchildren
      simp only [Node.contentParts]
      split
      · exact List.forall_mem_append.mpr ⟨hparts, hsource hobject⟩
      · refine List.forall_mem_append.mpr
          ⟨Part.allowed_enclose.mpr ⟨?_, hparts, ?_⟩, hsource (CustomType.within_clause? _)⟩
        · have hmember : IsName
              (if kind.isBlock then "NestedBlockObject" else "NestedAttributeObject") := by
            cases kind.isBlock <;> decide
          simp only [Source.within_cons]
          exact ⟨.plain (by decide), .qualified h.schema hmember, .plain (by decide),
            Source.within_nil⟩
        · simp only [Source.within_append]
          exact ⟨⟨⟨hobject, h.planModifiersClause _⟩, h.validatorsClause _⟩, Clause.within_closing⟩

/-- **The list of parts** uses allowed packages if all parts do. -/
theorem expand {done : Array Chunk} {parts : List Part} (hdone : Source.Within allowed done.toList)
    (hparts : ∀ part ∈ parts, part.Allowed allowed) :
    Source.Within allowed (Node.expand done parts).toList := by
  fun_induction Node.expand done parts with
  | case1 done => exact hdone
  | case2 done source parts ih =>
    obtain ⟨hsource, hparts⟩ := List.forall_mem_cons.mp hparts
    refine ih ?_ hparts
    rw [Array.toList_appendList]
    exact Source.within_append.mpr ⟨hdone, hsource⟩
  | case3 done name node parts ih =>
    -- the parts of a child take its place
    obtain ⟨hnode, hparts⟩ := List.forall_mem_cons.mp hparts
    refine ih hdone (List.forall_mem_append.mpr ⟨h.schemaParts (hnode node (.refl _)) ?_, hparts⟩)
    exact fun child hchild inner hinner => hnode inner (hinner.head hchild)

/-- The schema of a node uses what the node and its descendants need. -/
theorem schemaSource {name : String} {node : Node}
    (hneeds : ∀ inner, node.Reaches inner → ∀ p, inner.SchemaNeeds p → allowed p) :
    (node.schemaSource name).Within allowed :=
  h.expand Source.within_nil fun part hpart => by
    obtain rfl := List.mem_singleton.mp hpart
    exact hneeds

end SchemaPackages

/-- A node whose values have the framework's type needs the package of types. -/
theorem Node.needs_types_of_customType {node : Node} (h : node.customType = none) :
    node.Needs .types := by
  cases node with
  | nested kind f object =>
    by_cases hsingle : kind.isSingle = true
    · rw [Node.customType, if_pos hsingle] at h
      exact .objectType rfl h
    · rw [Node.customType, if_neg hsingle] at h
      exact .values (Bool.not_eq_true _ ▸ hsingle) h
  | _ => exact .values rfl h

end ProviderCode
