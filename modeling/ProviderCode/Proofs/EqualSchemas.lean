import ProviderCode.Proofs.EqualOutput
import ProviderCode.Proofs.SchemaSources

/-!
# Schemas of equal nodes

Equality of nodes is as fine as what their schemas show, but for the zeros: `0.0` and `-0.0` are
equal as defaults and are written differently.

Main statement: the schemas of equal nodes are the same up to signs of zeros, and they are the same
text exactly if the float defaults are the same.
-/

namespace ProviderCode

open List (Forall₂)

/-! ### Sources up to signs -/

/-- The argument of a default that is a zero. -/
def Chunk.IsZero (c : Chunk) : Prop := c = .fixed "(0.0)" ∨ c = .fixed "(-0.0)"

/-- The same chunk up to the sign of a zero. -/
def Chunk.Near (c d : Chunk) : Prop := c = d ∨ c.IsZero ∧ d.IsZero

/-- What stands before the argument of a float default. -/
def staticFloat : Chunk := .qualified .float64default "StaticFloat64"

/-- Two sources are the same up to signs of zeros: where they differ, the argument of a float default is
a zero in both. -/
inductive Source.Near : Source → Source → Prop
  | nil : Near [] []
  | same (c : Chunk) {s t : Source} (rest : Near s t) : Near (c :: s) (c :: t)
  | zero {c d : Chunk} {s t : Source} (left : c.IsZero) (right : d.IsZero) (rest : Near s t) :
    Near (staticFloat :: c :: s) (staticFloat :: d :: t)

/-- Two sources are the same up to signs of zeros, and they tell two lists of floats apart. -/
structure Source.Tells (s t : Source) (xs ys : List Float) : Prop where
  near : Near s t
  length_eq : xs.length = ys.length
  eq_iff : s = t ↔ xs = ys

namespace Source

variable {s t u v : Source} {xs ys zs ws : List Float}

theorem Near.refl : ∀ s : Source, Near s s
  | [] => .nil
  | c :: s => .same c (.refl s)

theorem Near.symm (h : Near s t) : Near t s := by
  induction h with
  | nil => exact .nil
  | same c _ ih => exact .same c ih
  | zero left right _ ih => exact .zero right left ih

theorem Near.append (h : Near s t) (h' : Near u v) : Near (s ++ u) (t ++ v) := by
  induction h with
  | nil => exact h'
  | same c _ ih => exact .same c ih
  | zero left right _ ih => exact .zero left right ih

/-- Side by side, the chunks are the same up to signs. -/
theorem Near.chunks (h : Near s t) : Forall₂ Chunk.Near s t := by
  induction h with
  | nil => exact .nil
  | same c _ ih => exact .cons (.inl rfl) ih
  | zero left right _ ih => exact .cons (.inl rfl) (.cons (.inr ⟨left, right⟩) ih)

theorem Tells.refl (s : Source) (xs : List Float) : Tells s s xs xs where
  near := .refl s
  length_eq := rfl
  eq_iff := iff_of_true rfl rfl

theorem Tells.of_eq (h : s = t) : Tells s t [] [] := h ▸ .refl s []

theorem Tells.symm (h : Tells s t xs ys) : Tells t s ys xs where
  near := h.near.symm
  length_eq := h.length_eq.symm
  eq_iff := by rw [eq_comm, h.eq_iff, eq_comm]

theorem Tells.append (h : Tells s t xs ys) (h' : Tells u v zs ws) :
    Tells (s ++ u) (t ++ v) (xs ++ zs) (ys ++ ws) where
  near := h.near.append h'.near
  length_eq := by rw [List.length_append, List.length_append, h.length_eq, h'.length_eq]
  eq_iff := by
    constructor
    · intro heq
      obtain ⟨hs, hu⟩ := List.append_inj heq h.near.chunks.length_eq
      rw [h.eq_iff.mp hs, h'.eq_iff.mp hu]
    · intro heq
      obtain ⟨hxs, hzs⟩ := List.append_inj heq h.length_eq
      rw [h.eq_iff.mpr hxs, h'.eq_iff.mpr hzs]

/-- What is the same on both sides tells nothing. -/
theorem Tells.behind (h : Tells s t xs ys) (heq : u = v) : Tells (u ++ s) (v ++ t) xs ys :=
  (Tells.of_eq heq).append h

theorem Tells.before (h : Tells s t xs ys) (heq : u = v) : Tells (s ++ u) (t ++ v) xs ys := by
  have hall := h.append (.of_eq heq)
  rwa [List.append_nil, List.append_nil] at hall

theorem zero_ne_negative (a b : String) : "(0.0)" ++ a ≠ "(-0.0)" ++ b := fun h => by
  have hchars := congrArg String.toList h
  simp at hchars

/-- Sources that are the same up to signs have the same text only if they are the same. -/
theorem text_eq_iff (h : Forall₂ Chunk.Near s t) : Source.text s = Source.text t ↔ s = t := by
  refine ⟨fun htext => ?_, fun heq => congrArg Source.text heq⟩
  induction h with
  | nil => rfl
  | @cons c d s t hnear _ ih =>
    rw [Source.text_cons, Source.text_cons] at htext
    have hchunk : c = d := by
      rcases hnear with heq | ⟨rfl | rfl, rfl | rfl⟩
      · exact heq
      · rfl
      · exact absurd htext (zero_ne_negative _ _)
      · exact absurd htext.symm (zero_ne_negative _ _)
      · rfl
    subst hchunk
    rw [ih (String.append_right_inj _ |>.mp htext)]

end Source

/-! ### Floats of a tree -/

/-- The float that a default gives. -/
def DefaultValue.floats : DefaultValue → List Float
  | .float64 x => [x]
  | .bool _ | .int64 _ | .string _ | .custom _ => []

def NodeFacets.floats (f : NodeFacets) : List Float := (f.default.map DefaultValue.floats).getD []

mutual

/-- The float defaults in a tree, in the order in which its schema shows them: those of the children
come before that of the node. -/
def Node.floats : Node → List Float
  | .scalar _ f | .collection _ f _ | .object f _ => f.floats
  | .nested _ f ⟨_, _, _, _, as, bs⟩ => floatsOfChildren as ++ floatsOfChildren bs ++ f.floats
termination_by structural node => node

def floatsOfChildren : Children Node → List Float
  | [] => []
  | (_, node) :: rest => node.floats ++ floatsOfChildren rest
termination_by structural children => children

end

/-! ### Facets -/

open Source (Tells)

theorem DefaultValue.write_zero : floatLayout.write 0 = "0.0" := by decide

theorem DefaultValue.write_negative_zero : floatLayout.write (-0) = "-0.0" := by decide

/-- There are two zeros. -/
theorem float_zero_ne : (0 : Float) ≠ -0 := fun h => by
  have htext := congrArg DefaultValue.floatLayout.write h
  rw [DefaultValue.write_zero, DefaultValue.write_negative_zero] at htext
  exact absurd htext (by decide)

theorem tells_zeros :
    Tells [staticFloat, .fixed "(0.0)"] [staticFloat, .fixed "(-0.0)"] [0] [-0] where
  near := .zero (.inl rfl) (.inr rfl) .nil
  length_eq := rfl
  eq_iff := iff_of_false (by decide) fun heq => float_zero_ne (List.head_eq_of_cons_eq heq)

/-- **A float default** tells the float. -/
theorem tells_float {x y : Float} (h : (x == y) = true) :
    Tells [staticFloat, .fixed ("(" ++ DefaultValue.floatLayout.write x ++ ")")]
      [staticFloat, .fixed ("(" ++ DefaultValue.floatLayout.write y ++ ")")] [x] [y] := by
  have hzero : "(" ++ DefaultValue.floatLayout.write 0 ++ ")" = "(0.0)" := by
    rw [DefaultValue.write_zero]
    decide
  have hnegative : "(" ++ DefaultValue.floatLayout.write (-0) ++ ")" = "(-0.0)" := by
    rw [DefaultValue.write_negative_zero]
    decide
  obtain ⟨-, -, rfl | ⟨rfl, rfl⟩ | ⟨rfl, rfl⟩⟩ := Float.beq_iff_ne_nan_and_eq.mp h
  · exact .refl _ _
  · rw [hzero, hnegative]
    exact tells_zeros
  · rw [hzero, hnegative]
    exact tells_zeros.symm

theorem DefaultValue.Same.tells {d d' : DefaultValue} (h : d.Same d') :
    Tells d.clause d'.clause d.floats d'.floats := by
  cases h with
  | float64 h =>
    let opening : Source := [.fixed "Default: "]
    let closing : Source := [.fixed ",\n"]
    exact ((tells_float h).before (rfl : closing = closing)).behind (rfl : opening = opening)
  | custom h =>
    refine .of_eq ?_
    rw [clause, clause, expression, expression, (Definition.beq_iff.mp h).1]
  | _ => exact .of_eq rfl

theorem NodeFacets.tells {f g : NodeFacets} (h : (f == g) = true) :
    Tells f.clauses g.clauses f.floats g.floats := by
  obtain ⟨⟨hmode, -, hdeprecation, hdescription, hsensitive⟩, hdefault, hplans, hvalidators⟩ :=
    NodeFacets.beq_iff.mp h
  have hclauses := Extensions.clause_eq hplans "PlanModifiers" .planmodifier
  have hclauses' := Extensions.clause_eq hvalidators "Validators" .validator
  have htells : Tells ((f.default.map DefaultValue.clause).getD [])
      ((g.default.map DefaultValue.clause).getD []) f.floats g.floats := by
    rw [floats, floats]
    revert hdefault
    generalize f.default = d
    generalize g.default = d'
    intro hdefault
    cases d <;> cases d'
    · exact .of_eq rfl
    · cases hdefault
    · cases hdefault
    · exact (DefaultValue.same_of_beq hdefault).tells
  refine htells.behind ?_
  rw [hmode, hsensitive, hdescription, hdeprecation, Extensions.planModifiersClause, hclauses,
    Extensions.validatorsClause, hclauses']
  rfl

/-! ### Parts -/

/-- The sources of parts, one after the other. -/
def Part.sources (parts : List Part) : Source := parts.flatMap Part.chunks

namespace Part

theorem sources_append (ps qs : List Part) : sources (ps ++ qs) = sources ps ++ sources qs :=
  List.flatMap_append

theorem sources_source (s : Source) : sources [.source s] = s := List.append_nil s

theorem sources_enclose (opening : Source) (parts : List Part) (closing : Source) :
    sources (Part.enclose opening parts closing) = opening ++ sources parts ++ closing := by
  rw [enclose, sources_append, sources_append, sources_source, sources_source]

end Part

/-- The same name, and nodes whose schemas tell their floats. -/
def TellsEntry (c d : String × Node) : Prop :=
  c.1 = d.1 ∧ ∀ name, Tells (c.2.schemaSource name) (d.2.schemaSource name) c.2.floats d.2.floats

theorem tells_children {as bs : Children Node} (h : Forall₂ TellsEntry as bs) :
    Tells (Part.sources (as.map fun c => .node c.1 c.2))
      (Part.sources (bs.map fun d => .node d.1 d.2))
      (floatsOfChildren as) (floatsOfChildren bs) := by
  induction h with
  | nil => exact .of_eq rfl
  | @cons c d as bs hchild _ ih =>
    obtain ⟨name, a⟩ := c
    obtain ⟨name', b⟩ := d
    obtain ⟨rfl, htells⟩ := hchild
    exact (htells name).append ih

/-- What encloses parts tells nothing. -/
theorem tells_enclose {ps qs : List Part} {xs ys : List Float}
    (h : Tells (Part.sources ps) (Part.sources qs) xs ys) (opening : Source)
    {closing closing' : Source} (hclosing : closing = closing') :
    Tells (Part.sources (Part.enclose opening ps closing))
      (Part.sources (Part.enclose opening qs closing')) xs ys := by
  rw [Part.sources_enclose, Part.sources_enclose]
  exact (h.behind rfl).before hclosing

namespace NestedObject

variable {x y : NestedObject Node}

/-- The children of objects tell their floats, if all of them are printed. -/
theorem tells_childParts {isBlock : Bool} (hblocks : isBlock = false → x.blocks = [])
    (has : Forall₂ TellsEntry x.attributes y.attributes)
    (hbs : Forall₂ TellsEntry x.blocks y.blocks) :
    Tells (Part.sources (x.childParts isBlock)) (Part.sources (y.childParts isBlock))
      (floatsOfChildren x.attributes ++ floatsOfChildren x.blocks)
      (floatsOfChildren y.attributes ++ floatsOfChildren y.blocks) := by
  have hattributes : Tells (Part.sources x.attributeParts) (Part.sources y.attributeParts)
      (floatsOfChildren x.attributes) (floatsOfChildren y.attributes) :=
    tells_enclose (tells_children has) Clause.attributesOpening rfl
  rw [childParts, childParts, Part.sources_append, Part.sources_append]
  refine hattributes.append ?_
  by_cases hnone : x.blocks = []
  · rw [hnone] at hbs
    have hnone' : y.blocks = [] := List.forall₂_nil_left_iff.mp hbs
    rw [blockParts, blockParts, hnone, hnone']
    cases isBlock <;> exact .of_eq rfl
  · have hblock : isBlock = true := by
      rw [← Bool.not_eq_false]
      exact fun hfalse => hnone (hblocks hfalse)
    have hsome : ¬ x.blocks.isEmpty = true := fun h => hnone (List.isEmpty_iff.mp h)
    have hsome' : ¬ y.blocks.isEmpty = true := fun h => by
      rw [List.isEmpty_iff.mp h] at hbs
      exact hnone (List.forall₂_nil_right_iff.mp hbs)
    rw [if_pos hblock, if_pos hblock, blockParts, blockParts, if_neg hsome, if_neg hsome']
    exact tells_enclose (tells_children hbs) Clause.blocksOpening rfl

end NestedObject

/-! ### Nodes -/

namespace Node

/-- The content and the facets tell what the schema tells. -/
theorem tells_schemaSource {a b : Node} (h : a.Same b) {name : String} {xs ys : List Float}
    (hcontent :
      Tells (Part.sources (a.contentParts name)) (Part.sources (b.contentParts name)) xs ys) :
    Tells (a.schemaSource name) (b.schemaSource name) (xs ++ a.facets.floats)
      (ys ++ b.facets.floats) := by
  have hsplit : ∀ node : Node, node.schemaSource name =
      [.literal name, .fixed ": ", .qualified .schema node.kind.schemaType, .fixed "\x7b\n"] ++
        (Part.sources (node.contentParts name) ++ node.facets.clauses ++ Clause.closing) := by
    intro node
    rw [schemaSource_eq]
    show Part.sources (node.schemaParts name) = _
    rw [schemaParts, Part.sources_enclose]
    simp only [List.append_assoc]
  rw [hsplit a, hsplit b, h.kind_eq]
  exact ((hcontent.append (NodeFacets.tells h.facets)).before rfl).behind rfl

/-- The content of a nested node is its children and what is said about its object. -/
theorem tells_contentParts {kind : NestedKind} {f g : NodeFacets} {x y : NestedObject Node}
    {xs ys : List Float} (hfacets : (f == g) = true) (hobject : x.Same y)
    (hchildren : Tells (Part.sources (x.childParts kind.isBlock))
      (Part.sources (y.childParts kind.isBlock)) xs ys) (name : String) :
    Tells (Part.sources ((Node.nested kind f x).contentParts name))
      (Part.sources ((Node.nested kind g y).contentParts name)) xs ys := by
  have hcustom := (NodeFacets.beq_iff.mp hfacets).1.2.1
  have hplans := Extensions.clause_eq hobject.planModifiers "PlanModifiers" .planmodifier
  have hvalidators := Extensions.clause_eq hobject.validators "Validators" .validator
  rw [contentParts, contentParts]
  split
  · rw [Part.sources_append, Part.sources_append]
    exact hchildren.before (by rw [hobject.customType])
  · rw [Part.sources_append, Part.sources_append]
    refine Tells.before ?_ (by rw [hcustom])
    refine tells_enclose hchildren _ ?_
    rw [hobject.customType, Extensions.planModifiersClause, hplans, Extensions.validatorsClause,
      hvalidators]
    rfl

/-- **Schemas of equal nodes** tell their floats. -/
theorem Same.tells {a b : Node} (ha : a.Built) (h : a.Same b) (name : String) :
    Tells (a.schemaSource name) (b.schemaSource name) a.floats b.floats := by
  cases h.alike with
  | scalar type facets =>
    refine tells_schemaSource h (.of_eq ?_)
    rw [contentParts, contentParts, (NodeFacets.beq_iff.mp facets).1.2.1]
  | collection shape element facets =>
    refine tells_schemaSource h (.of_eq ?_)
    rw [contentParts, contentParts, (NodeFacets.beq_iff.mp facets).1.2.1]
  | object types facets =>
    refine tells_schemaSource h (.of_eq ?_)
    rw [contentParts, contentParts, (NodeFacets.beq_iff.mp facets).1.2.1]
  | @nested kind f g x y facets object =>
    have hentry : ∀ c d, c ∈ x.children → SameEntry c d → TellsEntry c d := by
      intro c d hc hcd
      have hsmaller : c.2.size < (Node.nested kind f x).size := size_lt_of_mem_children hc
      exact ⟨hcd.1, hcd.2.tells (ha.child hc)⟩
    have hattributes : Forall₂ TellsEntry x.attributes y.attributes :=
      forall₂_imp_of_mem object.attributes.entry fun c d hc =>
        hentry c d (List.mem_append_left _ hc)
    have hblocks : Forall₂ TellsEntry x.blocks y.blocks :=
      forall₂_imp_of_mem object.blocks.entry fun c d hc =>
        hentry c d (List.mem_append_right _ hc)
    have hchildren := NestedObject.tells_childParts (fun hkind => ha.no_blocks hkind rfl)
      hattributes hblocks
    exact tells_schemaSource h (tells_contentParts facets object hchildren name)
termination_by a.size

end Node

/-! ### The theorem -/

/-- **Schemas of equal nodes.**  If a node that is built is equal to another one, their schemas are
the same under each name, except that a zero may have another sign as the argument of a float default;
and they are the same text exactly if no zero has, that is if the float defaults are the same. -/
theorem schema_of_equal {a b : Node} (ha : a.Built) (h : a.equal b = true) (name : String) :
    Source.Near (a.schemaSource name) (b.schemaSource name) ∧
      (a.schema name = b.schema name ↔ a.floats = b.floats) := by
  have htells := (Node.equal_iff.mp h).tells ha name
  exact ⟨htells.near, (Source.text_eq_iff htells.near.chunks).trans htells.eq_iff⟩

/-- An object with an attribute whose default is `x` and whose validator needs the imports. -/
def limitsAttribute (x : Float) (imports : List Import) : Attribute :=
  .mk "limits" (.single { mode := .optional } none
    [.mk "max" (.leaf (.float64
      { mode := .optional
        default := some { literal := some x }
        validators := [{ custom := some { imports, expression := "check.Limit(rule.Max)" } }] }))])

def limitsNode (x : Float) (imports : List Import) : Node :=
  .nested .singleAttribute
    { mode := some .optional, planModifiers := ⟨.object, []⟩, validators := ⟨.object, []⟩ }
    { attributes := [("max", .scalar .float64
        { mode := some .optional
          default := some (.float64 x)
          planModifiers := ⟨.scalar .float64, []⟩
          validators := ⟨.scalar .float64,
            [{ imports, expression := "check.Limit(rule.Max)" }]⟩ })] }

theorem build_limitsAttribute (x : Float) (imports : List Import) :
    (limitsAttribute x imports).build = .ok (limitsNode x imports) :=
  (limitsAttribute x imports).build_eq.trans rfl

theorem limitsNode_equal {x y : Float} {is js : List Import} (hdefault : (x == y) = true)
    (hperm : is.Perm js) : (limitsNode x is).equal (limitsNode y js) = true := by
  have hdefinition : ((⟨is, "check.Limit(rule.Max)"⟩ : Definition) ==
      ⟨js, "check.Limit(rule.Max)"⟩) = true := Definition.beq_iff.mpr ⟨rfl, hperm⟩
  rw [Node.equal_iff]
  simp [limitsNode, Node.Same, SameChildren, NodeFacets.beq_iff, Extensions.beq_iff, hdefinition,
    DefaultValue.beq_of_same (.float64 hdefault)]

/-- The order of imports is not shown, and of the default the sign is. -/
theorem schema_of_equal_limitsNode :
    (limitsAttribute 0 checkImports).build = .ok (limitsNode 0 checkImports) ∧
    (limitsNode 0 checkImports).equal (limitsNode 0 checkImports.reverse) = true ∧
    (limitsNode 0 checkImports).schema "limits" =
      (limitsNode 0 checkImports.reverse).schema "limits" ∧
    (limitsNode 0 checkImports).equal (limitsNode (-0) checkImports.reverse) = true ∧
    (limitsNode 0 checkImports).schema "limits" ≠
      (limitsNode (-0) checkImports.reverse).schema "limits" := by
  have hbuilt : (limitsNode 0 checkImports).Built := .inl ⟨_, build_limitsAttribute 0 checkImports⟩
  have hperm := (List.reverse_perm checkImports).symm
  have hsame : (limitsNode 0 checkImports).equal (limitsNode 0 checkImports.reverse) = true :=
    limitsNode_equal (by decide) hperm
  have hzeros : (limitsNode 0 checkImports).equal (limitsNode (-0) checkImports.reverse) = true :=
    limitsNode_equal (by decide) hperm
  have htext := (schema_of_equal hbuilt hsame "limits").2
  have htexts := (schema_of_equal hbuilt hzeros "limits").2
  refine ⟨build_limitsAttribute _ _, hsame, htext.mpr rfl, hzeros, fun heq => ?_⟩
  exact float_zero_ne (List.head_eq_of_cons_eq (htexts.mp heq))

/-- An attribute whose default is `x`. -/
def defaultAttribute (x : Float) : Attribute :=
  .mk "x" (.leaf (.float64 { mode := .optional, default := some { literal := some x } }))

/-- Zeros of both signs are one default, and the schemas show which one it is. -/
theorem schema_differs_for_zeros :
    ∃ a b : Node, (defaultAttribute 0).build = .ok a ∧ (defaultAttribute (-0)).build = .ok b ∧
      a.equal b = true ∧
      a.schema "x" = "\"x\": schema.Float64Attribute\x7b\nOptional: true,\nDefault: " ++
        "float64default.StaticFloat64(0.0),\n\x7d,\n" ∧
      b.schema "x" = "\"x\": schema.Float64Attribute\x7b\nOptional: true,\nDefault: " ++
        "float64default.StaticFloat64(-0.0),\n\x7d,\n" ∧
      a.schema "x" ≠ b.schema "x" := by
  have hbuild : ∀ x, (defaultAttribute x).build = .ok _ := fun x =>
    (defaultAttribute x).build_eq.trans rfl
  refine ⟨_, _, hbuild 0, hbuild (-0), ?_, ?_, ?_, ?_⟩
  · rw [Node.equal_iff]
    exact ⟨rfl, by decide⟩
  · rw [Node.schema, Node.schemaSource_eq]
    decide +kernel
  · rw [Node.schema, Node.schemaSource_eq]
    decide +kernel
  · rw [Node.schema, Node.schema, Node.schemaSource_eq, Node.schemaSource_eq]
    decide +kernel

end ProviderCode
