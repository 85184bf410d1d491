import Mathlib.Data.List.Duplicate
import Mathlib.Logic.Relation
import ProviderCode.Proofs.FirstFault

/-!
# Complete specifications

Which specifications can be built.  Every attribute and block has to have the part that its kind
needs, and the names of all attributes and blocks of one object have to be different.

Main statement: building succeeds exactly for such specifications, whatever their depth, and where
it fails the error tells of a declaration of the specification what is wrong with it.
-/

namespace ProviderCode

/-- Something that a specification declares. -/
inductive Declaration
  | ofAttribute (a : Attribute)
  | ofBlock (b : Block)
  | ofResource (r : Resource)

namespace Declaration

def name : Declaration → String
  | .ofAttribute a => a.name
  | .ofBlock b => b.name
  | .ofResource r => r.name

/-- The kind, as messages name it. -/
def kind : Declaration → String
  | .ofAttribute a => a.kind.name
  | .ofBlock b => b.kind.name
  | .ofResource _ => "resource"

/-- What is declared for the object, attributes before blocks. -/
def children : Declaration → List Declaration
  | .ofAttribute a => a.attributes.map .ofAttribute
  | .ofBlock b => b.attributes.map .ofAttribute ++ b.blocks.map .ofBlock
  | .ofResource ⟨_, some schema⟩ => schema.attributes.map .ofAttribute ++ schema.blocks.map .ofBlock
  | .ofResource ⟨_, none⟩ => []

/-- The part that the kind needs and that is not given. -/
def missing? : Declaration → Option String
  | .ofAttribute (.mk _ (.leaf (.collection _ _ none))) => some "element_type"
  | .ofAttribute (.mk _ (.leaf (.object _ none))) => some "attribute_types"
  | .ofAttribute (.mk _ (.nested _ _ none)) => some "nested_object"
  | .ofBlock (.mk _ (.nested _ _ none)) => some "nested_object"
  | .ofResource ⟨_, none⟩ => some "schema"
  | .ofAttribute _ | .ofBlock _ | .ofResource _ => none

/-- A declaration that is sound by itself: it lacks nothing, and no two children have one name. -/
structure Complete (d : Declaration) : Prop where
  parts : d.missing? = none
  names : (d.children.map name).Nodup

/-- What an error tells is true of a declaration: it lacks a part, or declares two children of one
name. -/
inductive Shows (d : Declaration) : GenerationError → Prop
  | missing {part : String} (h : d.missing? = some part) : d.Shows (.missingPart d.name d.kind part)
  | repeated {key : String} (h : List.Duplicate key (d.children.map name)) :
    d.Shows (.duplicateName key d.name)

/-- The second declaration is the first one or stands somewhere below it. -/
def Contains : Declaration → Declaration → Prop :=
  Relation.ReflTransGen fun parent child => child ∈ parent.children

/-- A declaration is sound if no error is true of it. -/
theorem complete_iff {d : Declaration} : d.Complete ↔ ∀ e, ¬ d.Shows e := by
  constructor
  · rintro ⟨hparts, hnames⟩ e (hmissing | hrepeated)
    · rw [hparts] at hmissing
      cases hmissing
    · exact List.nodup_iff_forall_not_duplicate.mp hnames _ hrepeated
  · intro h
    refine ⟨?_, List.nodup_iff_forall_not_duplicate.mpr fun key hkey => h _ (.repeated hkey)⟩
    cases hmissing : d.missing? with
    | none => rfl
    | some part => exact absurd (.missing hmissing) (h _)

end Declaration

/-! ### The faults of siblings -/

/-- A name that stands twice in two lists does so in one of them or is in both. -/
theorem duplicate_append_iff {key : String} {as bs : List String} :
    List.Duplicate key (as ++ bs) ↔
      List.Duplicate key as ∨ List.Duplicate key bs ∨ key ∈ as ∧ key ∈ bs := by
  simp only [List.duplicate_iff_two_le_count, List.count_append, ← List.count_pos_iff]
  omega

section Siblings

variable {α : Type} (name : α → String) (faults : α → List GenerationError) (owner : String)

/-- The faults of the children of `owner`, for any sort of children. -/
def childFaults (earlier : List String) : List α → List GenerationError
  | [] => []
  | a :: as =>
    (if name a ∈ earlier then [.duplicateName (name a) owner] else []) ++
      (faults a ++ childFaults (name a :: earlier) as)

variable {name faults owner}

/-- Siblings are at fault where one of them is, and where a name is taken when its turn comes. -/
theorem mem_childFaults {e : GenerationError} : ∀ {as : List α} {earlier : List String},
    e ∈ childFaults name faults owner earlier as ↔
      (∃ a ∈ as, e ∈ faults a) ∨ ∃ key, e = .duplicateName key owner ∧
        (List.Duplicate key (as.map name) ∨ key ∈ earlier ∧ key ∈ as.map name)
  | [], earlier => by simp [childFaults, List.not_duplicate_nil]
  | a :: as, earlier => by
    have htaken :
        e ∈ (if name a ∈ earlier then [GenerationError.duplicateName (name a) owner] else []) ↔
          ∃ key, e = .duplicateName key owner ∧ key ∈ earlier ∧ key = name a := by
      by_cases h : name a ∈ earlier
      · simp [h]
      · rw [if_neg h]
        refine iff_of_false List.not_mem_nil ?_
        rintro ⟨_, -, hin, rfl⟩
        exact h hin
    rw [childFaults, List.mem_append, List.mem_append, htaken, mem_childFaults]
    simp only [List.mem_cons, exists_eq_or_imp, List.map_cons, List.duplicate_cons_iff]
    constructor
    · rintro (⟨key, he, hin, heq⟩ | hfault | hfault | ⟨key, he, hdup | ⟨rfl | hin, hkey⟩⟩)
      · exact .inr ⟨key, he, .inr ⟨hin, .inl heq⟩⟩
      · exact .inl (.inl hfault)
      · exact .inl (.inr hfault)
      · exact .inr ⟨key, he, .inl (.inr hdup)⟩
      · exact .inr ⟨_, he, .inl (.inl ⟨rfl, hkey⟩)⟩
      · exact .inr ⟨key, he, .inr ⟨hin, .inr hkey⟩⟩
    · rintro ((hfault | hfault) | ⟨key, he, (⟨rfl, hkey⟩ | hdup) | ⟨hin, heq | hkey⟩⟩)
      · exact .inr (.inl hfault)
      · exact .inr (.inr (.inl hfault))
      · exact .inr (.inr (.inr ⟨_, he, .inr ⟨.inl rfl, hkey⟩⟩))
      · exact .inr (.inr (.inr ⟨key, he, .inl hdup⟩))
      · exact .inl ⟨key, he, hin, heq⟩
      · exact .inr (.inr (.inr ⟨key, he, .inr ⟨.inr hin, hkey⟩⟩))

end Siblings

theorem attributeFaults_eq {owner : String} : ∀ {as : List Attribute} {earlier : List String},
    attributeFaults owner earlier as =
      childFaults Attribute.name Attribute.faults owner earlier as
  | [], _ => rfl
  | a :: as, earlier => by
    have hrest : attributeFaults owner (a.name :: earlier) as =
        childFaults Attribute.name Attribute.faults owner (a.name :: earlier) as :=
      attributeFaults_eq
    rw [attributeFaults, childFaults, hrest]

theorem blockFaults_eq {owner : String} : ∀ {bs : List Block} {earlier : List String},
    blockFaults owner earlier bs = childFaults Block.name Block.faults owner earlier bs
  | [], _ => rfl
  | b :: bs, earlier => by
    have hrest : blockFaults owner (b.name :: earlier) bs =
        childFaults Block.name Block.faults owner (b.name :: earlier) bs :=
      blockFaults_eq
    rw [blockFaults, childFaults, hrest]

namespace Declaration

/-! ### The faults of a declaration -/

/-- All faults of a declaration and of what is below it. -/
def faults : Declaration → List GenerationError
  | .ofAttribute a => a.faults
  | .ofBlock b => b.faults
  | .ofResource ⟨name, some schema⟩ =>
    attributeFaults name [] schema.attributes ++
      blockFaults name (schema.attributes.map Attribute.name) schema.blocks
  | .ofResource ⟨name, none⟩ => [.missingPart name "resource" "schema"]

/-- The faults of one object: those of its children, and the names that stand there twice. -/
theorem mem_objectFaults {owner : String} {as : List Attribute} {bs : List Block}
    {e : GenerationError} :
    e ∈ attributeFaults owner [] as ++ blockFaults owner (as.map Attribute.name) bs ↔
      (∃ key, e = .duplicateName key owner ∧
        List.Duplicate key ((as.map ofAttribute ++ bs.map ofBlock).map name)) ∨
      ∃ c ∈ as.map ofAttribute ++ bs.map ofBlock, e ∈ c.faults := by
  have hnames : (as.map ofAttribute ++ bs.map ofBlock).map name =
      as.map Attribute.name ++ bs.map Block.name := by
    simp only [List.map_append, List.map_map]
    rfl
  rw [List.mem_append, attributeFaults_eq, blockFaults_eq, mem_childFaults, mem_childFaults, hnames]
  simp only [duplicate_append_iff, List.mem_append, List.mem_map, List.not_mem_nil, false_and,
    or_false]
  constructor
  · rintro ((⟨a, ha, he⟩ | ⟨key, he, hkey⟩) | ⟨b, hb, he⟩ | ⟨key, he, hkey⟩)
    · exact .inr ⟨_, .inl ⟨a, ha, rfl⟩, he⟩
    · exact .inl ⟨key, he, .inl hkey⟩
    · exact .inr ⟨_, .inr ⟨b, hb, rfl⟩, he⟩
    · exact .inl ⟨key, he, .inr hkey⟩
  · rintro (⟨key, he, hkey | hkey⟩ | ⟨_, ⟨a, ha, rfl⟩ | ⟨b, hb, rfl⟩, he⟩)
    · exact .inl (.inr ⟨key, he, hkey⟩)
    · exact .inr (.inr ⟨key, he, hkey⟩)
    · exact .inl (.inl ⟨a, ha, he⟩)
    · exact .inr (.inl ⟨b, hb, he⟩)

theorem mem_attributeFaults {owner : String} {as : List Attribute} {e : GenerationError} :
    e ∈ attributeFaults owner [] as ↔
      (∃ key, e = .duplicateName key owner ∧
        List.Duplicate key ((as.map ofAttribute).map name)) ∨
      ∃ c ∈ as.map ofAttribute, e ∈ c.faults := by
  have hobject :
      e ∈ attributeFaults owner [] as ++ blockFaults owner (as.map Attribute.name) [] ↔ _ :=
    mem_objectFaults
  rwa [blockFaults, List.append_nil, List.map_nil, List.append_nil] at hobject

/-- A declaration that lacks a part has this fault and no other one. -/
theorem faults_of_missing {d : Declaration} {part : String} (h : d.missing? = some part) :
    d.faults = [.missingPart d.name d.kind part] ∧ d.children = [] := by
  unfold missing? at h
  split at h <;> cases h <;> exact ⟨rfl, rfl⟩

/-- A declaration that lacks nothing has the faults of its object, if it has one. -/
theorem mem_faults_of_complete {d : Declaration} {e : GenerationError} (h : d.missing? = none) :
    e ∈ d.faults ↔
      (∃ key, e = .duplicateName key d.name ∧ List.Duplicate key (d.children.map name)) ∨
      ∃ c ∈ d.children, e ∈ c.faults := by
  have hleaf : e ∈ ([] : List GenerationError) ↔
      (∃ key, e = .duplicateName key d.name ∧
        List.Duplicate key (([] : List Declaration).map name)) ∨
      ∃ c ∈ ([] : List Declaration), e ∈ c.faults := by
    simp [List.not_duplicate_nil]
  cases d with
  | ofAttribute a =>
    obtain ⟨key, leaf | ⟨shape, f, _ | ⟨o, as⟩⟩ | ⟨f, external, as⟩⟩ := a
    · have hfaults : (Attribute.mk key (.leaf leaf)).faults = [] := by
        rcases leaf with f | f | f | f | f | ⟨shape, f, _ | element⟩ | ⟨f, _ | types⟩
        case collection.none | object.none => cases h
        all_goals rfl
      rw [faults, hfaults]
      exact hleaf
    · cases h
    · exact mem_attributeFaults
    · exact mem_attributeFaults
  | ofBlock b =>
    obtain ⟨key, ⟨shape, f, _ | ⟨o, as, bs⟩⟩ | ⟨f, external, as, bs⟩⟩ := b
    · cases h
    · exact mem_objectFaults
    · exact mem_objectFaults
  | ofResource r =>
    obtain ⟨key, _ | schema⟩ := r
    · cases h
    · exact mem_objectFaults

/-- **One level.**  A fault of a declaration is one that it shows itself or one of a child. -/
theorem mem_faults_iff {d : Declaration} {e : GenerationError} :
    e ∈ d.faults ↔ d.Shows e ∨ ∃ c ∈ d.children, e ∈ c.faults := by
  cases h : d.missing? with
  | some part =>
    obtain ⟨hfaults, hchildren⟩ := faults_of_missing h
    rw [hfaults, hchildren, List.mem_singleton]
    constructor
    · rintro rfl
      exact .inl (.missing h)
    · rintro ((hmissing | hrepeated) | ⟨c, hc, -⟩)
      · cases h.symm.trans hmissing
        rfl
      · rw [hchildren] at hrepeated
        exact hrepeated.elim_nil.elim
      · exact absurd hc List.not_mem_nil
  | none =>
    rw [mem_faults_of_complete h]
    refine or_congr_left ⟨?_, ?_⟩
    · rintro ⟨key, rfl, hkey⟩
      exact .repeated hkey
    · rintro (hmissing | hrepeated)
      · cases h.symm.trans hmissing
      · exact ⟨_, rfl, hrepeated⟩

/-! ### The whole tree -/

/-- The steps that building takes. -/
def steps : Declaration → Nat
  | .ofAttribute a => a.steps
  | .ofBlock b => b.steps
  | .ofResource ⟨_, some schema⟩ => 1 + attributeSteps schema.attributes + blockSteps schema.blocks
  | .ofResource ⟨_, none⟩ => 1

theorem steps_le_of_mem {c : Declaration} {as : List Attribute} {bs : List Block}
    (h : c ∈ as.map ofAttribute ++ bs.map ofBlock) :
    c.steps ≤ attributeSteps as + blockSteps bs := by
  rcases List.mem_append.mp h with h | h
  · obtain ⟨a, ha, rfl⟩ := List.mem_map.mp h
    have hle : a.steps ≤ attributeSteps as := Attribute.steps_le ha
    simp only [steps]
    omega
  · obtain ⟨b, hb, rfl⟩ := List.mem_map.mp h
    have hle : b.steps ≤ blockSteps bs := Block.steps_le hb
    simp only [steps]
    omega

theorem steps_lt_of_child {d c : Declaration} (h : c ∈ d.children) : c.steps < d.steps := by
  cases d with
  | ofAttribute a =>
    obtain ⟨c, hc, rfl⟩ := List.mem_map.mp h
    exact Attribute.steps_attribute_lt hc
  | ofBlock b =>
    obtain ⟨key, ⟨shape, f, _ | ⟨o, as, bs⟩⟩ | ⟨f, external, as, bs⟩⟩ := b
    · exact absurd h List.not_mem_nil
    all_goals
      have hle : c.steps ≤ attributeSteps as + blockSteps bs := steps_le_of_mem h
      show c.steps < 2 + attributeSteps as + blockSteps bs
      omega
  | ofResource r =>
    obtain ⟨key, _ | schema⟩ := r
    · exact absurd h List.not_mem_nil
    · have hle : c.steps ≤ attributeSteps schema.attributes + blockSteps schema.blocks :=
        steps_le_of_mem h
      show c.steps < 1 + attributeSteps schema.attributes + blockSteps schema.blocks
      omega

theorem exists_contains_of_mem_faults {d : Declaration} {e : GenerationError} (h : e ∈ d.faults) :
    ∃ inner, d.Contains inner ∧ inner.Shows e := by
  rcases mem_faults_iff.mp h with hshows | ⟨c, hc, hfault⟩
  · exact ⟨d, .refl, hshows⟩
  · have hlt := steps_lt_of_child hc
    obtain ⟨inner, hinner, hshows⟩ := exists_contains_of_mem_faults hfault
    exact ⟨inner, .head hc hinner, hshows⟩
termination_by d.steps

theorem mem_faults_of_contains {d inner : Declaration} {e : GenerationError}
    (h : d.Contains inner) (hshows : inner.Shows e) : e ∈ d.faults := by
  induction h using Relation.ReflTransGen.head_induction_on with
  | refl => exact mem_faults_iff.mpr (.inl hshows)
  | head hchild _ ih => exact mem_faults_iff.mpr (.inr ⟨_, hchild, ih⟩)

/-- **Faults.**  Nothing is at fault exactly if all that is declared is sound. -/
theorem faults_eq_nil_iff {d : Declaration} :
    d.faults = [] ↔ ∀ inner, d.Contains inner → inner.Complete := by
  simp only [complete_iff]
  constructor
  · intro hnil inner hinner e hshows
    have hfault : e ∈ d.faults := mem_faults_of_contains hinner hshows
    rw [hnil] at hfault
    exact absurd hfault List.not_mem_nil
  · intro h
    refine List.eq_nil_iff_forall_not_mem.mpr fun e hfault => ?_
    obtain ⟨inner, hinner, hshows⟩ := exists_contains_of_mem_faults hfault
    exact h inner hinner e hshows

end Declaration

/-! ### Building -/

open Generated (Reports)

/-- The children of a resource have the faults of its object. -/
theorem NestedObject.reports_build (parent : String) (attributes : List Attribute)
    (blocks : List Block) :
    Reports (NestedObject.build parent attributes blocks)
      (attributeFaults parent [] attributes ++
        blockFaults parent (attributes.map Attribute.name) blocks) := by
  rw [NestedObject.build_eq]
  refine (reports_constructAttributes parent [] attributes).bind fun as has => ?_
  change Reports (constructBlocks parent _ blocks >>= _) _
  rw [constructBlocks_after rfl rfl has]
  exact (reports_constructBlocks parent (attributes.map Attribute.name) blocks).map

theorem Resource.reports_build : ∀ r : Resource,
    Reports r.build (Declaration.ofResource r).faults
  | ⟨_, none⟩ => rfl
  | ⟨name, some schema⟩ =>
    (NestedObject.reports_build name schema.attributes schema.blocks).map

/-- What a result that fits the faults of a declaration says of it. -/
theorem Generated.Reports.declaration {α : Type} {result : Generated α} {d : Declaration}
    (h : Reports result d.faults) :
    ((∃ value, result = .ok value) ↔ ∀ inner, d.Contains inner → inner.Complete) ∧
      ∀ e, result = .error e → ∃ inner, d.Contains inner ∧ inner.Shows e := by
  refine ⟨h.ok_iff.trans Declaration.faults_eq_nil_iff, fun e he => ?_⟩
  exact Declaration.exists_contains_of_mem_faults (List.mem_of_head? (h.error_iff.mp he))

/-- **Complete specifications.**  An attribute, block or resource can be built exactly if no
declaration in it lacks a part or has two children of one name; the missing schema of a resource is
such a part.  The error tells of a declaration in it which part it lacks, or which name it gives to
two children. -/
theorem built_iff_complete :
    (∀ a : Attribute,
      ((∃ node, a.build = .ok node) ↔
        ∀ d, (Declaration.ofAttribute a).Contains d → d.Complete) ∧
      ∀ e, a.build = .error e → ∃ d, (Declaration.ofAttribute a).Contains d ∧ d.Shows e) ∧
    (∀ b : Block,
      ((∃ node, b.build = .ok node) ↔ ∀ d, (Declaration.ofBlock b).Contains d → d.Complete) ∧
      ∀ e, b.build = .error e → ∃ d, (Declaration.ofBlock b).Contains d ∧ d.Shows e) ∧
    ∀ r : Resource,
      ((∃ tree, r.build = .ok tree) ↔ ∀ d, (Declaration.ofResource r).Contains d → d.Complete) ∧
      ∀ e, r.build = .error e → ∃ d, (Declaration.ofResource r).Contains d ∧ d.Shows e := by
  refine ⟨fun a => ?_, fun b => ?_, fun r => r.reports_build.declaration⟩
  · have hreports : Reports a.build (Declaration.ofAttribute a).faults := by
      rw [a.build_eq]
      exact a.reports_construct
    exact hreports.declaration
  · have hreports : Reports b.build (Declaration.ofBlock b).faults := by
      rw [b.build_eq]
      exact b.reports_construct
    exact hreports.declaration

/-- An attribute whose child is a list without an element type. -/
def bareListAttribute : Attribute :=
  .mk "a" (.single { mode := .optional } none
    [.mk "y" (.leaf (.collection .list { mode := .optional } none))])

/-- A block that has a block with an attribute and a block of one name. -/
def repeatedBlock : Block :=
  .mk "rule" (.single {} none [ruleAttribute]
    [.mk "inner" (.nested .set {} (some
      { attributes := [ruleAttribute], blocks := [.mk "a" (.single {} none [] [])] }))])

/-- Faults that stand below others are reported of the declarations that have them, and so is the
schema that a resource lacks. -/
theorem built_iff_complete_repeatedBlock :
    (∃ d, (Declaration.ofAttribute bareListAttribute).Contains d ∧
      d.Shows (.missingPart "y" "list" "element_type")) ∧
    (∃ d, (Declaration.ofBlock repeatedBlock).Contains d ∧
      d.Shows (.duplicateName "a" "inner")) ∧
    ∃ d, (Declaration.ofResource ⟨"r", none⟩).Contains d ∧
      d.Shows (.missingPart "r" "resource" "schema") := by
  obtain ⟨hattributes, hblocks, hresources⟩ := built_iff_complete
  exact ⟨(hattributes bareListAttribute).2 _ ((Attribute.build_eq _).trans rfl),
    (hblocks repeatedBlock).2 _ ((Block.build_eq _).trans rfl), (hresources _).2 _ rfl⟩

end ProviderCode
