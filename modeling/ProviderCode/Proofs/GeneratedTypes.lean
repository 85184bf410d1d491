import ProviderCode.Proofs.Adaptable
import ProviderCode.Proofs.BuiltNode
import ProviderCode.Proofs.PendingPairs

/-!
# Generated types are closed under reference

Four walks decide on their own where a generated type is used or made: the schema gives it as a
custom type, the type pairs declare it, the fields of a type pair mention the types of their
children, and the adapters convert with them.  For every tree that is built they agree.

* `generatedClauses_schemaSource`: the clauses of a schema that give a generated type are those of
  the objects that a pair is made for.
* `closedTypes_of_build`: so no code refers to a generated type that is not declared, or declares
  one that the schema does not use.
-/

namespace ProviderCode

open List (Forall₂ Perm)

/-! ### Clauses that give a generated type -/

namespace Source

/-- The name of the generated type, if the source begins with a clause that gives one. -/
def generated? : Source → Option String
  | first :: .name name :: rest =>
    if (CustomType.objectClause name none).isPrefixOf (first :: .name name :: rest) then some name
    else none
  | _ => none

/-- The names of the generated types that a source gives as custom types, in order. -/
def generatedClauses : Source → List String
  | [] => []
  | chunk :: rest => (generated? (chunk :: rest)).toList ++ generatedClauses rest

/-- A source at the end of which no clause is cut. -/
def Whole (source : Source) : Prop :=
  ∀ rest, generatedClauses (source ++ rest) = generatedClauses source ++ generatedClauses rest

/-- A mention of the value of a generated type, of which a method is called. -/
def MentionsValue (source : Source) (name : String) : Prop :=
  ∃ method, [.name name, .fixed ("Value\x7b\x7d." ++ method)] <:+: source

end Source

/-- A chunk with which no clause of a custom type begins and that names no generated type. -/
@[simp] def Chunk.isPlain : Chunk → Bool
  | .fixed text => text != "CustomType: "
  | .name _ => false
  | .qualified _ _ | .literal _ | .verbatim _ => true

namespace Source

/-- A source of plain chunks. -/
def Plain (source : Source) : Prop := ∀ chunk ∈ source, chunk.isPlain = true

@[simp] theorem plain_nil : Plain [] := fun _ h => absurd h List.not_mem_nil

@[simp] theorem plain_cons {chunk : Chunk} {source : Source} :
    Plain (chunk :: source) ↔ chunk.isPlain = true ∧ Plain source :=
  List.forall_mem_cons

@[simp] theorem plain_append {a b : Source} : Plain (a ++ b) ↔ Plain a ∧ Plain b :=
  List.forall_mem_append

@[simp] theorem plain_enclose {opening inner closing : Source} :
    Plain (Source.enclose opening inner closing) ↔ Plain opening ∧ Plain inner ∧ Plain closing := by
  rw [enclose, plain_append, plain_append, and_assoc]

theorem Plain.not_mentionsValue {source : Source} {name : String} (h : source.Plain) :
    ¬ source.MentionsValue name := by
  rintro ⟨method, hpart⟩
  have hname : Chunk.name name ∈ source := hpart.subset List.mem_cons_self
  exact absurd (h _ hname) Bool.false_ne_true

/-- No clause begins with a chunk other than its first one. -/
theorem generated?_of_ne {chunk : Chunk} {rest : Source} (h : chunk ≠ .fixed "CustomType: ") :
    generated? (chunk :: rest) = none := by
  unfold generated?
  split
  · next name tail heq =>
    cases heq
    have hhead : (Chunk.fixed "CustomType: " == chunk) = false :=
      beq_eq_false_iff_ne.mpr fun h' => h h'.symm
    rw [CustomType.objectClause, List.isPrefixOf, hhead, Bool.false_and, if_neg Bool.false_ne_true]
  · rfl

theorem generatedClauses_cons_of_ne {chunk : Chunk} {rest : Source}
    (h : chunk ≠ .fixed "CustomType: ") :
    generatedClauses (chunk :: rest) = generatedClauses rest := by
  rw [generatedClauses, generated?_of_ne h]
  rfl

theorem Plain.generatedClauses_append {source : Source} (h : source.Plain) (rest : Source) :
    generatedClauses (source ++ rest) = generatedClauses rest := by
  induction source with
  | nil => rfl
  | cons chunk source ih =>
    rw [plain_cons] at h
    have hne : chunk ≠ .fixed "CustomType: " := by
      rintro rfl
      exact absurd h.1 (by decide)
    rw [List.cons_append, generatedClauses_cons_of_ne hne, ih h.2]

theorem Plain.generatedClauses {source : Source} (h : source.Plain) :
    source.generatedClauses = [] := by
  have hnil := h.generatedClauses_append []
  rwa [List.append_nil] at hnil

theorem Plain.whole {source : Source} (h : source.Plain) : source.Whole := fun rest => by
  rw [h.generatedClauses_append, h.generatedClauses, List.nil_append]

theorem Whole.append {a b : Source} (ha : a.Whole) (hb : b.Whole) : (a ++ b).Whole := fun rest => by
  rw [List.append_assoc, ha, ha, hb, List.append_assoc]

end Source

/-! ### Clauses without generated types -/

theorem Source.plain_flatMap {α : Type} {f : α → Source} {as : List α}
    (h : ∀ a ∈ as, (f a).Plain) : Source.Plain (as.flatMap f) := fun chunk hchunk => by
  obtain ⟨a, ha, hin⟩ := List.mem_flatMap.mp hchunk
  exact h a ha chunk hin

namespace ElementType

theorem plain_mapExpression {entries : List (String × Source)}
    (h : ∀ entry ∈ entries, entry.2.Plain) : (mapExpression entries).Plain := by
  have hentries : Source.Plain (entries.flatMap fun entry =>
      Source.enclose [.literal entry.1, .fixed ": "] entry.2 [.fixed ",\n"]) :=
    Source.plain_flatMap fun entry hentry => by simp [h entry hentry]
  simp [mapExpression, hentries]

mutual

theorem plain_expression : ∀ type : ElementType, type.expression.Plain
  | .scalar _ (some _) | .collection _ (some _) _ | .object (some _) _ | .scalar _ none => by
    simp [expression]
  | .collection _ none element => by
    simp [expression, plain_expression element]
  | .object none attributes => by
    have hmap : (mapExpression (byName (expressions attributes))).Plain :=
      plain_mapExpression fun entry hentry =>
        plain_expressions attributes entry (List.mem_mergeSort.mp hentry)
    simp [expression, hmap]

theorem plain_expressions : ∀ types : List (String × ElementType),
    ∀ entry ∈ expressions types, entry.2.Plain
  | [], _, h => absurd h List.not_mem_nil
  | (_, type) :: rest, entry, h => by
    rcases List.mem_cons.mp h with rfl | h
    · exact plain_expression type
    · exact plain_expressions rest entry h

end

end ElementType

theorem AttributeTypes.plain_expression (types : List (String × ElementType)) :
    (AttributeTypes.expression types).Plain :=
  ElementType.plain_mapExpression (ElementType.plain_expressions types)

theorem ElementType.plain_elementType (element : ElementType) :
    (Clause.elementType element).Plain := by
  simp [Clause.elementType, element.plain_expression]

theorem AttributeTypes.plain_clause (types : List (String × ElementType)) :
    (Clause.attributeTypes types).Plain := by
  simp [Clause.attributeTypes, AttributeTypes.plain_expression types]

theorem DefaultValue.plain_clause (d : DefaultValue) : d.clause.Plain := by
  have hparen : ∀ text : String, "(" ++ text ≠ "CustomType: " := fun text h => by
    have hfirst := congrArg (fun s : String => s.toList.head?) h
    simp at hfirst
  cases d <;> simp [clause, expression, String.append_assoc, hparen]

theorem Extensions.plain_clause {field : String} {package : Package} {extensions : Extensions}
    (hfield : field ++ ": []" ≠ "CustomType: ") : (extensions.clause field package).Plain := by
  have hdefinitions : Source.Plain (extensions.definitions.flatMap fun d =>
      [.verbatim d.expression, .fixed ",\n"]) :=
    Source.plain_flatMap fun d _ => by simp
  unfold Extensions.clause
  split
  · exact Source.plain_nil
  · simp [hfield, hdefinitions]

/-- No clause of the facets after the custom type is one of a custom type. -/
theorem NodeFacets.plain_clauses (f : NodeFacets) : f.clauses.Plain := by
  have hmode : (Clause.mode f.mode).Plain := by
    unfold Clause.mode
    split <;> simp
  have hsensitive : (Clause.sensitive f.sensitive).Plain := by
    unfold Clause.sensitive
    split <;> simp
  have hdescription : (Clause.description f.description).Plain := by
    unfold Clause.description
    split <;> simp
  have hdeprecation : (Clause.deprecation f.deprecation).Plain := by
    unfold Clause.deprecation
    split <;> simp
  have hdefault : Source.Plain ((f.default.map DefaultValue.clause).getD []) := by
    cases f.default with
    | none => exact Source.plain_nil
    | some d => exact d.plain_clause
  have hplans : f.planModifiers.planModifiersClause.Plain := Extensions.plain_clause (by decide)
  have hvalidators : f.validators.validatorsClause.Plain := Extensions.plain_clause (by decide)
  simp [clauses, hmode, hsensitive, hdescription, hdeprecation, hdefault, hplans, hvalidators]

/-! ### Clauses of custom types -/

namespace CustomType

/-- The clause of a custom type that is given gives no generated type. -/
theorem generatedClauses_clause (custom : CustomType) (rest : Source) :
    Source.generatedClauses (custom.clause ++ rest) = Source.generatedClauses rest := by
  have htail : Source.Plain [.verbatim custom.type, .fixed ",\n"] := by simp
  rw [← htail.generatedClauses_append rest]
  rfl

theorem generatedClauses_objectClause (name : String) (rest : Source) :
    Source.generatedClauses (objectClause name none ++ rest) =
      name :: Source.generatedClauses rest := by
  have hbegins : (objectClause name none).isPrefixOf (objectClause name none ++ rest) = true :=
    List.isPrefixOf_iff_prefix.mpr (List.prefix_append _ _)
  have hfirst : Source.generated? (objectClause name none ++ rest) = some name := by
    change (if (objectClause name none).isPrefixOf (objectClause name none ++ rest) then some name
      else none) = _
    rw [hbegins, if_pos rfl]
  -- none of the later chunks begins a clause
  change (Source.generated? (objectClause name none ++ rest)).toList ++
    Source.generatedClauses (.name name :: .fixed _ :: .qualified _ _ :: .fixed _ :: .name name ::
      .fixed _ :: rest) = _
  rw [hfirst]
  repeat rw [Source.generatedClauses_cons_of_ne (by simp)]
  rfl

theorem whole_clause? (custom : Option CustomType) :
    (clause? custom).Whole ∧ (clause? custom).generatedClauses = [] := by
  cases custom with
  | none => exact ⟨Source.plain_nil.whole, rfl⟩
  | some custom =>
    have hnil : custom.clause.generatedClauses = [] := by
      have h := generatedClauses_clause custom []
      rwa [List.append_nil] at h
    refine ⟨fun rest => ?_, hnil⟩
    rw [clause?, hnil, generatedClauses_clause, List.nil_append]

/-- The clause of an object gives the generated type of its name, unless there is a custom type. -/
theorem whole_objectClause (name : String) (custom : Option CustomType) :
    (objectClause name custom).Whole ∧
      (objectClause name custom).generatedClauses = if custom.isNone then [name] else [] := by
  cases custom with
  | none =>
    have hname : (objectClause name none).generatedClauses = [name] := by
      have h := generatedClauses_objectClause name []
      rwa [List.append_nil] at h
    refine ⟨fun rest => ?_, hname⟩
    rw [hname, generatedClauses_objectClause]
    rfl
  | some custom => exact whole_clause? (some custom)

end CustomType

/-! ### Owners of pairs -/

/-- The object of a node, if a pair of types is made for it. -/
def Node.typeOwner? (node : Node) : Option (NestedObject Node) :=
  node.object?.filter NestedObject.generatesType

/-- The objects among nodes that a pair of types is made for, each with the name of its node. -/
def typeOwners (nodes : Children Node) : List (String × NestedObject Node) :=
  nodes.filterMap fun child => child.2.typeOwner?.map fun object => (child.1, object)

/-- The names of the pairs that are made for nodes. -/
def ownedNames (nodes : Children Node) : List String :=
  (typeOwners nodes).map fun owner => Name.pascal owner.1

theorem typeOwners_append (a b : Children Node) :
    typeOwners (a ++ b) = typeOwners a ++ typeOwners b :=
  List.filterMap_append

theorem ownedNames_append (a b : Children Node) :
    ownedNames (a ++ b) = ownedNames a ++ ownedNames b := by
  rw [ownedNames, typeOwners_append, List.map_append, ownedNames, ownedNames]

theorem mem_typeOwners {nodes : Children Node} {name : String} {object : NestedObject Node} :
    (name, object) ∈ typeOwners nodes ↔
      ∃ node, (name, node) ∈ nodes ∧ node.object? = some object ∧ object.customType = none := by
  simp only [typeOwners, Node.typeOwner?, List.mem_filterMap, Option.map_eq_some_iff,
    Option.filter_eq_some_iff, NestedObject.generatesType, Option.isNone_iff_eq_none,
    Prod.mk.injEq]
  constructor
  · rintro ⟨⟨key, node⟩, hnode, body, hbody, rfl, rfl⟩
    exact ⟨node, hnode, hbody⟩
  · rintro ⟨node, hnode, hbody⟩
    exact ⟨(name, node), hnode, object, hbody, rfl, rfl⟩

/-- A node without a custom type for its object owns a pair. -/
theorem mem_ownedNames {nodes : Children Node} {name : String} {node : Node}
    {object : NestedObject Node} (hnode : (name, node) ∈ nodes)
    (hobject : node.object? = some object) (hcustom : object.customType = none) :
    Name.pascal name ∈ ownedNames nodes :=
  List.mem_map.mpr ⟨(name, object), mem_typeOwners.mpr ⟨node, hnode, hobject, hcustom⟩, rfl⟩

/-! ### Schemas -/

/-- A node that is not a block has no blocks, as blocks are not printed there. -/
def Node.BlocksBelong (node : Node) : Prop :=
  node.kind.isBlock = false → ∀ object, node.object? = some object → object.blocks = []

/-- The generated types that a part gives, with those of all descendants. -/
def Part.generated : Part → List String
  | .source s => s.generatedClauses
  | .node name child => ownedNames (child.walk name)

/-- A part at the end of which no clause is cut, and in which blocks belong to blocks. -/
def Part.Sound : Part → Prop
  | .source s => s.Whole
  | .node name child => ∀ c ∈ child.walk name, c.2.BlocksBelong

/-- The generated types that parts give, one part after the other. -/
def partsGenerated (parts : List Part) : List String := parts.flatMap Part.generated

theorem partsGenerated_append (a b : List Part) :
    partsGenerated (a ++ b) = partsGenerated a ++ partsGenerated b :=
  List.flatMap_append

theorem partsGenerated_cons (part : Part) (parts : List Part) :
    partsGenerated (part :: parts) = part.generated ++ partsGenerated parts :=
  List.flatMap_cons

theorem partsGenerated_enclose {opening closing : Source} (hopening : opening.Plain)
    (parts : List Part) :
    partsGenerated (Part.enclose opening parts closing) =
      partsGenerated parts ++ closing.generatedClauses := by
  simp only [Part.enclose, partsGenerated_append, partsGenerated_cons, Part.generated,
    hopening.generatedClauses, List.nil_append]
  exact congrArg _ (List.append_nil _)

theorem partsGenerated_children (children : Children Node) :
    partsGenerated (children.map fun child => .node child.1 child.2) =
      ownedNames (Node.walkAll children) := by
  induction children with
  | nil => rfl
  | cons child rest ih =>
    rw [List.map_cons, partsGenerated_cons, ih, Node.walkAll_cons, ownedNames_append]
    rfl

theorem Clause.plain_closing : Clause.closing.Plain := by simp [Clause.closing]

theorem Clause.plain_attributesOpening : Clause.attributesOpening.Plain := by
  simp [Clause.attributesOpening]

theorem Clause.plain_blocksOpening : Clause.blocksOpening.Plain := by simp [Clause.blocksOpening]

/-- The beginnings of a node and of the object that a collection repeats. -/
theorem Node.plain_opening (name type : String) :
    Source.Plain [.literal name, .fixed ": ", .qualified .schema type, .fixed "\x7b\n"] := by
  simp

theorem NestedObject.plain_opening (type : String) :
    Source.Plain [.fixed "NestedObject: ", .qualified .schema type, .fixed "\x7b\n"] := by
  simp

theorem Node.plain_closing (node : Node) : (node.facets.clauses ++ Clause.closing).Plain :=
  Source.plain_append.mpr ⟨node.facets.plain_clauses, Clause.plain_closing⟩

/-- The clauses after the custom type of the object that a collection repeats. -/
theorem NestedObject.plain_closing (object : NestedObject Node) :
    (object.planModifiers.planModifiersClause ++
      (object.validators.validatorsClause ++ Clause.closing)).Plain :=
  Source.plain_append.mpr ⟨Extensions.plain_clause (by decide),
    Source.plain_append.mpr ⟨Extensions.plain_clause (by decide), Clause.plain_closing⟩⟩

theorem partsGenerated_attributeParts (object : NestedObject Node) :
    partsGenerated object.attributeParts = ownedNames (Node.walkAll object.attributes) := by
  rw [NestedObject.attributeParts, partsGenerated_enclose Clause.plain_attributesOpening,
    partsGenerated_children, Clause.plain_closing.generatedClauses, List.append_nil]

theorem partsGenerated_blockParts (object : NestedObject Node) :
    partsGenerated object.blockParts = ownedNames (Node.walkAll object.blocks) := by
  unfold NestedObject.blockParts
  split
  · next hempty =>
    rw [List.isEmpty_iff.mp hempty]
    rfl
  · rw [partsGenerated_enclose Clause.plain_blocksOpening, partsGenerated_children,
      Clause.plain_closing.generatedClauses, List.append_nil]

/-- The children of an object whose blocks belong there give their own generated types. -/
theorem partsGenerated_childParts {object : NestedObject Node} {isBlock : Bool}
    (h : isBlock = false → object.blocks = []) :
    partsGenerated (object.childParts isBlock) = ownedNames (Node.walkAll object.children) := by
  rw [NestedObject.childParts, NestedObject.children, Node.walkAll_append, ownedNames_append,
    partsGenerated_append, partsGenerated_attributeParts]
  cases isBlock with
  | true => rw [if_pos rfl, partsGenerated_blockParts]
  | false =>
    rw [h rfl]
    rfl

/-- The clauses of the object that a collection repeats give what its children give, and its own
generated type. -/
theorem partsGenerated_objectParts {object : NestedObject Node} {name : String} {isBlock : Bool}
    (h : isBlock = false → object.blocks = []) :
    partsGenerated (object.objectParts name isBlock) =
      ownedNames (Node.walkAll object.children) ++
        if object.customType.isNone then [Name.pascal name] else [] := by
  obtain ⟨hwhole, hnames⟩ := CustomType.whole_objectClause (Name.pascal name) object.customType
  rw [NestedObject.objectParts, partsGenerated_enclose (NestedObject.plain_opening _),
    partsGenerated_childParts h, List.append_assoc, List.append_assoc, hwhole, hnames,
    object.plain_closing.generatedClauses, List.append_nil]

/-- A nested node owns a pair unless its object has a custom type. -/
theorem ownedNames_walk_nested {name : String} {kind : NestedKind} {f : NodeFacets}
    {body : NestedObject Node} :
    ownedNames ((Node.nested kind f body).walk name) =
      (if body.customType.isNone then [Name.pascal name] else []) ++
        ownedNames (Node.walkAll body.children) := by
  rw [Node.walk_eq, ← List.singleton_append, ownedNames_append]
  refine congrArg (· ++ _) ?_
  have howner : (Node.nested kind f body).typeOwner? =
      if body.customType.isNone then some body else none := rfl
  simp only [ownedNames, typeOwners, List.filterMap_cons, howner]
  by_cases hcustom : body.customType.isNone = true
  · rw [if_pos hcustom, if_pos hcustom]
    rfl
  · rw [if_neg hcustom, if_neg hcustom]
    rfl

/-- The parts of a node give the generated types of the node and its descendants. -/
theorem partsGenerated_schemaParts {name : String} {node : Node} (h : node.BlocksBelong) :
    Perm (partsGenerated (node.schemaParts name)) (ownedNames (node.walk name)) := by
  have hlast : ∀ parts (s : Source), partsGenerated (parts ++ [.source s]) =
      partsGenerated parts ++ s.generatedClauses := fun parts s => by
    rw [partsGenerated_append]
    exact congrArg _ (List.append_nil _)
  rw [Node.schemaParts, partsGenerated_enclose (Node.plain_opening _ _),
    node.plain_closing.generatedClauses, List.append_nil]
  cases node with
  | scalar type f =>
    rw [Node.contentParts, ← List.nil_append [_], hlast, (CustomType.whole_clause? _).2]
    exact .nil
  | collection shape f element =>
    rw [Node.contentParts, ← List.nil_append [_], hlast,
      element.plain_elementType.generatedClauses_append, (CustomType.whole_clause? _).2]
    exact .nil
  | object f types =>
    rw [Node.contentParts, ← List.nil_append [_], hlast,
      (AttributeTypes.plain_clause types).generatedClauses_append, (CustomType.whole_clause? _).2]
    exact .nil
  | nested kind f body =>
    have hblocks : kind.isBlock = false → body.blocks = [] := fun hkind => h hkind body rfl
    rw [ownedNames_walk_nested, Node.contentParts]
    split
    · rw [hlast, partsGenerated_childParts hblocks, (CustomType.whole_objectClause _ _).2]
      exact List.perm_append_comm
    · rw [hlast, partsGenerated_objectParts hblocks, (CustomType.whole_clause? _).2,
        List.append_nil]
      exact List.perm_append_comm

theorem Part.sound_enclose {opening closing : Source} {parts : List Part} (hopening : opening.Whole)
    (hparts : ∀ part ∈ parts, part.Sound) (hclosing : closing.Whole) :
    ∀ part ∈ Part.enclose opening parts closing, part.Sound := by
  intro part hpart
  rcases List.mem_append.mp hpart with hpart | hpart
  · rcases List.mem_append.mp hpart with hpart | hpart
    · obtain rfl := List.mem_singleton.mp hpart
      exact hopening
    · exact hparts part hpart
  · obtain rfl := List.mem_singleton.mp hpart
    exact hclosing

/-- Children in which blocks belong to blocks are sound parts. -/
theorem NestedObject.sound_childParts {object : NestedObject Node} (isBlock : Bool)
    (h : ∀ c ∈ Node.walkAll object.children, c.2.BlocksBelong) :
    ∀ part ∈ object.childParts isBlock, part.Sound := by
  have hchildren : ∀ children : Children Node, children ⊆ object.children →
      ∀ part ∈ children.map (fun child => Part.node child.1 child.2), part.Sound := by
    intro children hsubset part hpart
    obtain ⟨child, hchild, rfl⟩ := List.mem_map.mp hpart
    exact fun c hc => h c (Node.walk_subset_walkAll (hsubset hchild) hc)
  have hattributes : ∀ part ∈ object.attributeParts, part.Sound :=
    Part.sound_enclose Clause.plain_attributesOpening.whole
      (hchildren _ (List.subset_append_left _ _)) Clause.plain_closing.whole
  have hblocks : ∀ part ∈ object.blockParts, part.Sound := by
    unfold blockParts
    split
    · exact fun _ hpart => absurd hpart List.not_mem_nil
    · exact Part.sound_enclose Clause.plain_blocksOpening.whole
        (hchildren _ (List.subset_append_right _ _)) Clause.plain_closing.whole
  intro part hpart
  rcases List.mem_append.mp hpart with hpart | hpart
  · exact hattributes part hpart
  · split at hpart
    · exact hblocks part hpart
    · exact absurd hpart List.not_mem_nil

/-- Parts of a node in which blocks belong to blocks are sound. -/
theorem Node.sound_schemaParts {name : String} {node : Node}
    (h : ∀ c ∈ node.walk name, c.2.BlocksBelong) : ∀ part ∈ node.schemaParts name, part.Sound := by
  have hsource : ∀ {s : Source}, s.Whole → ∀ part ∈ [Part.source s], part.Sound := fun hs part hp =>
    List.mem_singleton.mp hp ▸ hs
  have hclause : ∀ custom, (CustomType.clause? custom).Whole := fun custom =>
    (CustomType.whole_clause? custom).1
  refine Part.sound_enclose (plain_opening _ _).whole ?_ node.plain_closing.whole
  cases node with
  | scalar type f => exact hsource (hclause _)
  | collection shape f element => exact hsource (element.plain_elementType.whole.append (hclause _))
  | object f types => exact hsource ((AttributeTypes.plain_clause types).whole.append (hclause _))
  | nested kind f body =>
    have hchildren : ∀ part ∈ body.childParts kind.isBlock, part.Sound := by
      refine body.sound_childParts _ fun c hc => h c ?_
      rw [walk_eq]
      exact List.mem_cons_of_mem _ hc
    have hobject := (CustomType.whole_objectClause (Name.pascal name) body.customType).1
    rw [contentParts]
    split
    · exact List.forall_mem_append.mpr ⟨hchildren, hsource hobject⟩
    · have hclosing := hobject.append body.plain_closing.whole
      rw [← List.append_assoc, ← List.append_assoc] at hclosing
      exact List.forall_mem_append.mpr
        ⟨Part.sound_enclose (NestedObject.plain_opening _).whole hchildren hclosing,
          hsource (hclause _)⟩

/-- **Expanding parts** writes the generated types of the parts, each as often as it is owned. -/
theorem generatedClauses_expand (done : Array Chunk) (parts : List Part)
    (h : ∀ part ∈ parts, part.Sound) :
    ∃ tail, (Node.expand done parts).toList = done.toList ++ tail ∧
      Perm (Source.generatedClauses tail) (partsGenerated parts) := by
  fun_induction Node.expand done parts with
  | case1 done => exact ⟨[], (List.append_nil _).symm, .nil⟩
  | case2 done s parts ih =>
    obtain ⟨hs, hparts⟩ := List.forall_mem_cons.mp h
    obtain ⟨tail, htail, hperm⟩ := ih hparts
    refine ⟨s ++ tail, by rw [htail]; simp, ?_⟩
    have hwhole : s.Whole := hs
    rw [hwhole, partsGenerated_cons]
    exact hperm.append_left _
  | case3 done name node parts ih =>
    obtain ⟨hnode, hparts⟩ := List.forall_mem_cons.mp h
    have hwalk : ∀ c ∈ node.walk name, c.2.BlocksBelong := hnode
    have hself : node.BlocksBelong := by
      rw [Node.walk_eq] at hwalk
      exact hwalk _ List.mem_cons_self
    obtain ⟨tail, htail, hperm⟩ :=
      ih (List.forall_mem_append.mpr ⟨Node.sound_schemaParts hwalk, hparts⟩)
    refine ⟨tail, htail, hperm.trans ?_⟩
    rw [partsGenerated_append, partsGenerated_cons]
    exact (partsGenerated_schemaParts hself).append_right _

/-- The clauses of a schema that give a generated type are those of the objects that own one. -/
theorem generatedClauses_schemaSource {name : String} {node : Node}
    (h : ∀ c ∈ node.walk name, c.2.BlocksBelong) :
    Perm (Source.generatedClauses (node.schemaSource name)) (ownedNames (node.walk name)) := by
  obtain ⟨tail, htail, hperm⟩ := generatedClauses_expand #[] [.node name node] fun part hpart =>
    List.mem_singleton.mp hpart ▸ h
  rw [Node.schemaSource, htail]
  refine hperm.trans ?_
  rw [partsGenerated_cons]
  exact .of_eq (List.append_nil _)

/-! ### Type pairs -/

/-- The type pairs of nodes are those of the owners among them; other nodes add nothing. -/
theorem mapM_ownTypePair (nodes : Children Node) :
    ∃ all texts, (nodes.mapM fun child => child.2.ownTypePair child.1) = .ok all ∧
      String.join all = String.join texts ∧
      Forall₂ (fun owner text => owner.2.typePair owner.1 = .ok text ∧
        DeclaresPair (Name.pascal owner.1) text) (typeOwners nodes) texts := by
  induction nodes with
  | nil => exact ⟨[], [], rfl, rfl, .nil⟩
  | cons child rest ih =>
    obtain ⟨all, texts, hall, hjoin, hpairs⟩ := ih
    cases howner : child.2.typeOwner? with
    | some object =>
      obtain ⟨hobject, hgenerates⟩ := Option.filter_eq_some_iff.mp howner
      obtain ⟨text, htext, hdeclares⟩ := object.typePair_ok child.1
      refine ⟨text :: all, text :: texts, ?_, ?_, ?_⟩
      · rw [List.mapM_cons, hall, Node.ownTypePair, hobject]
        simp only [hgenerates, if_true, htext]
        rfl
      · rw [String.join_cons, String.join_cons, hjoin]
      · rw [typeOwners, List.filterMap_cons, howner]
        exact .cons ⟨htext, hdeclares⟩ hpairs
    | none =>
      have hown : child.2.ownTypePair child.1 = .ok "" := by
        unfold Node.ownTypePair
        split
        · next object hobject =>
          rw [Node.typeOwner?, hobject, Option.filter_some] at howner
          split at howner
          · cases howner
          · next hgenerates => rw [if_neg hgenerates]
        · rfl
      refine ⟨"" :: all, texts, ?_, ?_, ?_⟩
      · rw [List.mapM_cons, hall, hown]
        rfl
      · rw [String.join_cons, String.empty_append, hjoin]
      · rw [typeOwners, List.filterMap_cons, howner]
        exact hpairs

/-- **Type pairs** are always generated, one for each owner in preorder. -/
theorem Node.typePairs_ok (name : String) (node : Node) :
    ∃ texts, node.typePairs name = .ok (String.join texts) ∧
      Forall₂ (fun owner text => owner.2.typePair owner.1 = .ok text ∧
        DeclaresPair (Name.pascal owner.1) text) (typeOwners (node.walk name)) texts := by
  obtain ⟨all, texts, hall, hjoin, hpairs⟩ := mapM_ownTypePair (node.walk name)
  refine ⟨texts, ?_, hpairs⟩
  rw [typePairs_eq_ownPairs, ownPairs, hall, ← hjoin]
  rfl

/-! ### Fields of pairs -/

/-- The fields of an object are those of its children. -/
theorem NestedObject.exists_child_of_field {object : NestedObject Node} {field : FieldDescriptor}
    (h : field ∈ object.fieldDescriptors) :
    ∃ child ∈ object.children, field = child.2.fieldDescriptor child.1 := by
  obtain ⟨⟨key, field⟩, hfield, rfl⟩ := List.mem_map.mp h
  rcases Children.mem_merge hfield with hfield | hfield
  · obtain ⟨child, hchild, heq⟩ := List.mem_map.mp hfield
    exact ⟨child, List.mem_append_right _ hchild, (Prod.mk.inj heq).2.symm⟩
  · obtain ⟨child, hchild, heq⟩ := List.mem_map.mp hfield
    exact ⟨child, List.mem_append_left _ hchild, (Prod.mk.inj heq).2.symm⟩

/-- The type of a field mentions the generated value of its own node only, and only if the object of
the node has no custom type. -/
theorem Node.eq_of_mentionsValue {name mentioned : String} {node : Node}
    (h : (node.fieldDescriptor name).attributeType.MentionsValue mentioned) :
    mentioned = Name.pascal name ∧
      ∃ object, node.object? = some object ∧ object.customType = none := by
  have hverbatim : ∀ custom : CustomType, Source.Plain [.verbatim custom.type] := fun _ => by simp
  simp only [fieldDescriptor] at h
  cases hcustom : node.customType with
  | some custom =>
    rw [hcustom] at h
    exact absurd h (hverbatim custom).not_mentionsValue
  | none =>
    rw [hcustom] at h
    cases node with
    | scalar type f =>
      have hplain : ((Node.scalar type f).basetype name).Plain := by simp [basetype]
      exact absurd h hplain.not_mentionsValue
    | collection shape f element =>
      have hplain : ((Node.collection shape f element).basetype name).Plain := by
        simp [basetype, element.plain_expression]
      exact absurd h hplain.not_mentionsValue
    | object f types =>
      have hplain : ((Node.object f types).basetype name).Plain := by
        simp [basetype, AttributeTypes.plain_expression types]
      exact absurd h hplain.not_mentionsValue
    | nested kind f body =>
      obtain ⟨method, hpart⟩ := h
      have hmem : Chunk.name mentioned ∈ (Node.nested kind f body).basetype name :=
        hpart.subset List.mem_cons_self
      rw [basetype] at hmem
      rw [customType] at hcustom
      split at hmem
      · next hsingle =>
        rw [if_pos hsingle] at hcustom
        simp at hmem
        exact ⟨hmem, body, rfl, hcustom⟩
      · cases hbody : body.customType with
        | some custom => simp [hbody, Source.enclose] at hmem
        | none =>
          simp [hbody, Source.enclose] at hmem
          exact ⟨hmem, body, rfl, hbody⟩

/-! ### Adapters -/

/-- The adapters of a visited node belong to an owner, and so do the objects that they convert. -/
theorem Node.HasAdapter.owned {name : String} {node : Node} {child : String × Node}
    {adapter : Adapter} (hadapter : child.2.HasAdapter child.1 adapter)
    (hchild : child ∈ node.walk name) :
    Name.pascal adapter.name ∈ ownedNames (node.walk name) ∧
      ∀ c ∈ adapter.fields, ∀ suffix, c.exchange = .object suffix →
        Name.pascal c.name ∈ ownedNames (node.walk name) := by
  obtain ⟨key, parent⟩ := child
  obtain ⟨body, hbody, -, hconversions⟩ := hadapter.object
  obtain ⟨-, hcustom, -, hall⟩ := conversions_eq_ok.mp hconversions
  refine ⟨?_, fun c hc suffix hsuffix => ?_⟩
  · rw [hadapter.name_eq]
    exact mem_ownedNames hchild hbody hcustom
  · obtain ⟨⟨field, value⟩, hfield, hconversion⟩ := exists_partner hall hc
    rcases conversion_eq_ok.mp hconversion with ⟨type, f, -, rfl⟩ | ⟨f, object, _, rfl, -, hnone, rfl⟩
    · cases hsuffix
    · have hmem : (field, Node.nested .singleAttribute f object) ∈ parent.children := by
        rw [children_eq hbody]
        exact List.mem_append_left _ hfield
      exact mem_ownedNames (walk_closed hchild hmem) rfl hnone

/-! ### Trees that are built -/

/-- The generated types that a node refers to are those that its type pairs declare.

The type pairs always come out, one for each owner; the schema gives each of their types once; the
fields of a pair mention the values of these only; and adapters, if there are any, are methods of
these values and convert to and from them. -/
structure Node.ClosedTypes (name : String) (node : Node) : Prop where
  pairs : ∃ texts, node.typePairs name = .ok (String.join texts) ∧
    Forall₂ (fun owner text => owner.2.typePair owner.1 = .ok text ∧
      DeclaresPair (Name.pascal owner.1) text) (typeOwners (node.preorder name)) texts
  clauses : Perm (Source.generatedClauses (node.schemaSource name))
    (ownedNames (node.preorder name))
  fields : ∀ owner ∈ typeOwners (node.preorder name), ∀ field ∈ owner.2.fieldDescriptors,
    ∀ mentioned, field.attributeType.MentionsValue mentioned →
      mentioned ∈ ownedNames (node.preorder name)
  adapters : ∀ text, node.adapters name = .ok text → ∃ texts, text = String.join texts ∧
    ∀ part ∈ texts, ∃ adapter : Adapter, adapter.render = .ok part ∧
      DeclaresAdapters (Name.pascal adapter.name) adapter.external.suffix part ∧
      Name.pascal adapter.name ∈ ownedNames (node.preorder name) ∧
      ∀ c ∈ adapter.fields, ∀ suffix, c.exchange = .object suffix →
        Name.pascal c.name ∈ ownedNames (node.preorder name)

/-- The types of a node are closed if blocks belong to blocks everywhere in its tree. -/
theorem Node.closedTypes {name : String} {node : Node}
    (h : ∀ c ∈ node.walk name, c.2.BlocksBelong) : node.ClosedTypes name := by
  refine ⟨?_, ?_, ?_, ?_⟩
  all_goals rw [preorder_eq]
  · exact node.typePairs_ok name
  · exact generatedClauses_schemaSource h
  · rintro ⟨key, object⟩ howner field hfield mentioned hmentions
    obtain ⟨parent, hparent, hobject, -⟩ := mem_typeOwners.mp howner
    obtain ⟨child, hchild, rfl⟩ := NestedObject.exists_child_of_field hfield
    obtain ⟨rfl, body, hbody, hcustom⟩ := eq_of_mentionsValue hmentions
    have hmem : child ∈ parent.children := by rwa [children_eq hobject]
    exact mem_ownedNames (walk_closed hparent hmem) hbody hcustom
  · intro text htext
    by_cases hbound : node.isBound = true
    · rw [adapters_eq hbound, map_eq_ok] at htext
      obtain ⟨texts, htexts, rfl⟩ := htext
      refine ⟨texts, rfl, fun part hpart => ?_⟩
      obtain ⟨child, hchild, hown⟩ := exists_partner (mapM_eq_ok.mp htexts) hpart
      rw [preorder_eq] at hchild
      obtain ⟨hwalk, hboundChild⟩ := List.mem_filter.mp hchild
      obtain ⟨adapter, hadapter, hrender⟩ := (ownAdapters_eq_ok hboundChild).mp hown
      obtain ⟨text, htext, hdeclares⟩ :=
        adapter.external.render_adapters_ok adapter.name adapter.fields
      obtain rfl : text = part := Except.ok.inj (htext.symm.trans hrender)
      exact ⟨adapter, hrender, hdeclares, hadapter.owned hwalk⟩
    · rw [adapters_of_unbound (Bool.not_eq_true _ ▸ hbound)] at htext
      cases htext
      exact ⟨[], rfl, fun _ h => absurd h List.not_mem_nil⟩

/-- What holds of a node and in the walks of its children holds in its walk. -/
theorem Node.forall_walk {P : Node → Prop} {name : String} {node : Node} (hnode : P node)
    (hchildren : ∀ child ∈ node.children, ∀ c ∈ child.2.walk child.1, P c.2) :
    ∀ c ∈ node.walk name, P c.2 := by
  intro c hc
  rw [walk_eq] at hc
  rcases List.mem_cons.mp hc with rfl | hc
  · exact hnode
  · obtain ⟨child, hchild, hin⟩ := mem_walkAll.mp hc
    exact hchildren child hchild c hin

namespace Reflects

variable {attributes blocks : Children Node} {as : List Attribute} {bs : List Block}
  {child : String × Node}

/-- What holds of each declaration and the entry under its name holds of each entry and some
declaration, as every entry stands under a declared name. -/
theorem exists_attribute {P : Attribute → Node → Prop} (h : Reflects attributes blocks as bs)
    (hdeclared : ∀ a ∈ as, ∀ node, (a.name, node) ∈ attributes → P a node)
    (hchild : child ∈ attributes) : ∃ a ∈ as, P a child.2 := by
  have hentry := h.attribute_entries.mem_iff.mp (List.mem_map_of_mem hchild)
  obtain ⟨a, ha, heq⟩ := List.mem_map.mp hentry
  have hname : a.name = child.1 := (Prod.mk.inj heq).1
  exact ⟨a, ha, hdeclared a ha child.2 (hname ▸ hchild)⟩

theorem exists_block {P : Block → Node → Prop} (h : Reflects attributes blocks as bs)
    (hdeclared : ∀ b ∈ bs, ∀ node, (b.name, node) ∈ blocks → P b node)
    (hchild : child ∈ blocks) : ∃ b ∈ bs, P b child.2 := by
  have hentry := h.block_entries.mem_iff.mp (List.mem_map_of_mem hchild)
  obtain ⟨b, hb, heq⟩ := List.mem_map.mp hentry
  have hname : b.name = child.1 := (Prod.mk.inj heq).1
  exact ⟨b, hb, hdeclared b hb child.2 (hname ▸ hchild)⟩

end Reflects

/-- In the tree of an attribute no node has blocks. -/
theorem Attribute.Represented.blocksBelong {a : Attribute} {node : Node} (h : a.Represented node) :
    ∀ {name : String}, ∀ c ∈ node.walk name, c.2.BlocksBelong := by
  induction h with
  | @intro a node holds attributes ih =>
    intro name
    refine Node.forall_walk holds.no_blocks fun child hchild => ?_
    cases hobject : node.object? with
    | none =>
      rw [Node.children, hobject] at hchild
      exact absurd hchild List.not_mem_nil
    | some object =>
      have hkind : node.kind.isBlock = false := holds.kind_eq ▸ a.isBlock_kind
      rw [Node.children_eq hobject, NestedObject.children, holds.no_blocks hkind object hobject,
        List.append_nil] at hchild
      obtain ⟨_, -, hbelong⟩ :=
        (holds.object_reflects object hobject).exists_attribute (ih object hobject) hchild
      exact hbelong

theorem Block.Represented.blocksBelong {b : Block} {node : Node} (h : b.Represented node) :
    ∀ {name : String}, ∀ c ∈ node.walk name, c.2.BlocksBelong := by
  induction h with
  | @intro b node holds attributes blocks ih =>
    intro name
    refine Node.forall_walk holds.no_blocks fun child hchild => ?_
    cases hobject : node.object? with
    | none =>
      rw [Node.children, hobject] at hchild
      exact absurd hchild List.not_mem_nil
    | some object =>
      rw [Node.children_eq hobject] at hchild
      have hreflects := holds.object_reflects object hobject
      rcases List.mem_append.mp hchild with hchild | hchild
      · obtain ⟨_, -, hrepresented⟩ :=
          hreflects.exists_attribute (attributes object hobject) hchild
        exact hrepresented.blocksBelong
      · obtain ⟨_, -, hbelong⟩ := hreflects.exists_block (ih object hobject) hchild
        exact hbelong

/-- **Generated types are closed under reference.**  For every attribute and block, and for the
attributes and blocks of every resource, what is generated from the tree under any name refers to
the types that the type pairs declare, and the schema gives each of them once. -/
theorem closedTypes_of_build :
    (∀ (a : Attribute) (node : Node), a.build = .ok node → ∀ name, node.ClosedTypes name) ∧
    (∀ (b : Block) (node : Node), b.build = .ok node → ∀ name, node.ClosedTypes name) ∧
    ∀ (resource : Resource) (tree : ResourceTree), resource.build = .ok tree →
      ∀ child ∈ tree.attributes ++ tree.blocks, ∀ name, child.2.ClosedTypes name := by
  refine ⟨fun a node h name => Node.closedTypes (Attribute.represented h).blocksBelong,
    fun b node h name => Node.closedTypes (Block.represented h).blocksBelong,
    fun resource tree h child hchild name => ?_⟩
  obtain ⟨schema, -, hrepresents⟩ := Resource.represented h
  rcases List.mem_append.mp hchild with hchild | hchild
  · obtain ⟨_, -, hrepresented⟩ :=
      hrepresents.reflects.exists_attribute hrepresents.attributes hchild
    exact Node.closedTypes hrepresented.blocksBelong
  · obtain ⟨_, -, hrepresented⟩ := hrepresents.reflects.exists_block hrepresents.blocks hchild
    exact Node.closedTypes hrepresented.blocksBelong

/-- A bound block with a bound object in it. -/
def boundBlock : Block :=
  .mk "rule" (.single {} (some { type := "*api.Rule" })
    [.mk "inner_rule" (.single { mode := .optional } (some { type := "api.Inner" }) [])] [])

/-- A resource with the block. -/
def boundResource : Resource := { name := "firewall", schema := some { blocks := [boundBlock] } }

/-- The block has two pairs of types, those of its object and of the object in it. -/
theorem closedTypes_of_build_boundBlock :
    (∃ node, boundBlock.build = .ok node ∧ node.ClosedTypes "rule" ∧
      ownedNames (node.preorder "rule") = ["Rule", "InnerRule"]) ∧
    (∃ node, ruleAttribute.build = .ok node ∧ node.ClosedTypes "a") ∧
    ∃ tree, boundResource.build = .ok tree ∧
      ∀ child ∈ tree.attributes ++ tree.blocks, child.2.ClosedTypes child.1 := by
  obtain ⟨hattributes, hblocks, hresources⟩ := closedTypes_of_build
  have hblock : boundBlock.build = .ok _ := boundBlock.build_eq.trans rfl
  have hattribute : ruleAttribute.build = .ok _ := ruleAttribute.build_eq.trans rfl
  have hobject : NestedObject.build "firewall" [] [boundBlock] = .ok _ :=
    (NestedObject.build_eq _ _ _).trans rfl
  obtain ⟨tree, htree⟩ : ∃ tree, boundResource.build = .ok tree := by
    simp only [boundResource, Resource.build, hobject]
    exact ⟨_, rfl⟩
  refine ⟨⟨_, hblock, hblocks _ _ hblock _, ?_⟩, ⟨_, hattribute, hattributes _ _ hattribute _⟩,
    tree, htree, fun child hchild => hresources _ tree htree child hchild child.1⟩
  rw [Node.preorder_eq]
  decide

end ProviderCode
