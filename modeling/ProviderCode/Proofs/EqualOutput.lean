import ProviderCode.Node.Adapter
import ProviderCode.Proofs.Adaptable
import ProviderCode.Proofs.EqualDefinitions
import ProviderCode.Proofs.NodeEquality
import ProviderCode.Proofs.NodeImports
import ProviderCode.Proofs.PendingPairs

/-!
# What equal nodes generate

Equality of nodes is coarser than identity: definitions are equal up to the order of their imports,
wherever they stand in a tree.  Nodes that are equal have the same shape, custom types and external
types, and definitions that bring the same imports.

* `Node.Same.walk`: the walks of equal nodes are side by side the same names and equal nodes.
* `Node.Same.brings`: equal nodes bring the same imports.

Main statement: equal nodes have the same imports, and give the same type pairs, adapters, fields
and conversions under each name.
-/

namespace ProviderCode

open List (Forall₂)

variable {name : String} {a b : Node}

/-! ### Equality by what the nodes are -/

/-- Objects that are the same: the parts they are made of are, and the children in order. -/
structure NestedObject.Same (x y : NestedObject Node) : Prop where
  external : x.external = y.external
  customType : x.customType = y.customType
  planModifiers : (x.planModifiers == y.planModifiers) = true
  validators : (x.validators == y.validators) = true
  attributes : SameChildren x.attributes y.attributes
  blocks : SameChildren x.blocks y.blocks

/-- Nodes of one kind that have equal facets and the same content. -/
inductive Node.Alike : Node → Node → Prop
  | scalar (type : Scalar) {f g : NodeFacets} (facets : (f == g) = true) :
      Alike (.scalar type f) (.scalar type g)
  | collection (shape : Shape) (element : ElementType) {f g : NodeFacets}
      (facets : (f == g) = true) : Alike (.collection shape f element) (.collection shape g element)
  | object (types : List (String × ElementType)) {f g : NodeFacets} (facets : (f == g) = true) :
      Alike (.object f types) (.object g types)
  | nested (kind : NestedKind) {f g : NodeFacets} {x y : NestedObject Node}
      (facets : (f == g) = true) (object : x.Same y) : Alike (.nested kind f x) (.nested kind g y)

theorem Node.Same.alike : ∀ {a b : Node}, a.Same b → a.Alike b
  | .scalar type _, b, h => by
    cases b <;> simp only [Node.Same] at h
    obtain ⟨rfl, hfacets⟩ := h
    exact .scalar type hfacets
  | .collection shape _ element, b, h => by
    cases b <;> simp only [Node.Same] at h
    obtain ⟨rfl, hfacets, rfl⟩ := h
    exact .collection shape element hfacets
  | .object _ types, b, h => by
    cases b <;> simp only [Node.Same] at h
    obtain ⟨hfacets, rfl⟩ := h
    exact .object types hfacets
  | .nested kind _ _, b, h => by
    cases b <;> simp only [Node.Same] at h
    obtain ⟨rfl, hfacets, hext, hcustom, hplans, hvalidators, has, hbs⟩ := h
    exact .nested kind hfacets ⟨hext, hcustom, hplans, hvalidators, has, hbs⟩

namespace Node

theorem Same.kind_eq (h : a.Same b) : a.kind = b.kind := by
  cases h.alike <;> rfl

theorem Same.facets (h : a.Same b) : (a.facets == b.facets) = true := by
  cases h.alike <;> assumption

/-- The same node has the same object, or none either. -/
theorem Same.object {x : NestedObject Node} (h : a.Same b) (hx : a.object? = some x) :
    ∃ y, b.object? = some y ∧ x.Same y := by
  cases h.alike with
  | nested kind facets object =>
    cases hx
    exact ⟨_, rfl, object⟩
  | _ => cases hx

theorem Same.customType_eq (h : a.Same b) : a.customType = b.customType := by
  cases h.alike with
  | nested kind facets object =>
    rw [customType, customType, object.customType, (NodeFacets.beq_iff.mp facets).1.2.1]
  | scalar type facets => exact (NodeFacets.beq_iff.mp facets).1.2.1
  | collection shape element facets => exact (NodeFacets.beq_iff.mp facets).1.2.1
  | object types facets => exact (NodeFacets.beq_iff.mp facets).1.2.1

theorem Same.isBound_eq (h : a.Same b) : a.isBound = b.isBound := by
  cases h.alike with
  | nested kind facets object => exact congrArg Option.isSome object.external
  | _ => rfl

end Node

/-! ### Children and walks side by side -/

/-- The same name and the same node under it. -/
def SameEntry (c d : String × Node) : Prop := c.1 = d.1 ∧ c.2.Same d.2

theorem SameChildren.entry {as bs : Children Node} (h : SameChildren as bs) :
    Forall₂ SameEntry as bs := by
  induction as generalizing bs with
  | nil =>
    cases bs <;> simp only [SameChildren] at h
    exact .nil
  | cons child as ih =>
    cases bs <;> simp only [SameChildren] at h
    exact .cons ⟨h.1, h.2.1⟩ (ih h.2.2)

theorem NestedObject.Same.children {x y : NestedObject Node} (h : x.Same y) :
    Forall₂ SameEntry x.children y.children :=
  List.rel_append h.attributes.entry h.blocks.entry

mutual

/-- **The walks of equal nodes** are side by side the same names and equal nodes. -/
theorem Node.Same.walk (name : String) : ∀ {a b : Node}, a.Same b →
    Forall₂ SameEntry (a.walk name) (b.walk name)
  | .scalar _ _, b, h => by
    cases b <;> simp only [Node.Same] at h
    exact .cons ⟨rfl, h⟩ .nil
  | .collection _ _ _, b, h => by
    cases b <;> simp only [Node.Same] at h
    exact .cons ⟨rfl, h⟩ .nil
  | .object _ _, b, h => by
    cases b <;> simp only [Node.Same] at h
    exact .cons ⟨rfl, h⟩ .nil
  | .nested _ _ ⟨_, _, _, _, _, _⟩, b, h => by
    cases b <;> simp only [Node.Same] at h
    have has := SameChildren.walkAll h.2.2.2.2.2.2.1
    have hbs := SameChildren.walkAll h.2.2.2.2.2.2.2
    exact .cons ⟨rfl, h⟩ (List.rel_append has hbs)

theorem SameChildren.walkAll : ∀ {as bs : Children Node}, SameChildren as bs →
    Forall₂ SameEntry (Node.walkAll as) (Node.walkAll bs)
  | [], bs, h => by
    cases bs <;> simp only [SameChildren] at h
    exact .nil
  | (_, _) :: _, bs, h => by
    cases bs <;> simp only [SameChildren] at h
    obtain ⟨rfl, hchild, hrest⟩ := h
    exact List.rel_append (hchild.walk _) (SameChildren.walkAll hrest)

end

/-! ### Fields -/

namespace Node

theorem Same.basetype_eq (h : a.Same b) : a.basetype name = b.basetype name := by
  cases h.alike with
  | nested kind facets object => rw [basetype, basetype, object.customType]
  | _ => rfl

theorem Same.fieldCollection?_eq (h : a.Same b) : a.fieldCollection? = b.fieldCollection? := by
  cases h.alike with
  | collection shape element facets =>
    rw [fieldCollection?, fieldCollection?, (NodeFacets.beq_iff.mp facets).1.2.1]
  | _ => rfl

theorem Same.modelField_eq (h : a.Same b) : a.modelField name = b.modelField name := by
  rw [modelField, modelField, h.customType_eq, h.kind_eq]

theorem Same.fieldDescriptor_eq (h : a.Same b) :
    a.fieldDescriptor name = b.fieldDescriptor name := by
  rw [fieldDescriptor, fieldDescriptor, h.customType_eq, h.kind_eq, h.basetype_eq,
    h.fieldCollection?_eq]

theorem Same.conversion_eq (h : a.Same b) : a.conversion name = b.conversion name := by
  cases h.alike with
  | scalar type facets => rw [conversion, conversion, (NodeFacets.beq_iff.mp facets).1.2.1]
  | nested kind facets object =>
    cases kind with
    | singleAttribute => simp only [conversion, object.external, object.customType]; rfl
    | _ => rfl
  | _ => rfl

end Node

/-! ### Type pairs -/

theorem NestedObject.Same.generatesType_eq {x y : NestedObject Node} (h : x.Same y) :
    x.generatesType = y.generatesType :=
  congrArg Option.isNone h.customType

theorem NestedObject.Same.fieldDescriptors_eq {x y : NestedObject Node} (h : x.Same y) :
    x.fieldDescriptors = y.fieldDescriptors := by
  have hfields : ∀ {as bs : Children Node}, SameChildren as bs →
      as.map (fun child => (child.1, child.2.fieldDescriptor child.1)) =
        bs.map fun child => (child.1, child.2.fieldDescriptor child.1) := fun h =>
    map_eq_of_forall₂ h.entry fun c d hcd => by rw [hcd.1, hcd.2.fieldDescriptor_eq]
  simp only [NestedObject.fieldDescriptors, hfields h.attributes, hfields h.blocks]

theorem NestedObject.Same.typePair_eq {x y : NestedObject Node} (h : x.Same y) :
    x.typePair name = y.typePair name := by
  have hcontext : x.context name = y.context name := by
    rw [NestedObject.context, NestedObject.context, h.fieldDescriptors_eq]
  rw [NestedObject.typePair, NestedObject.typePair, hcontext]

theorem Node.Same.ownTypePair_eq (h : a.Same b) : a.ownTypePair name = b.ownTypePair name := by
  cases h.alike with
  | nested kind facets object =>
    simp only [Node.ownTypePair, Node.object?, object.generatesType_eq, object.typePair_eq]
  | _ => rfl

theorem Node.Same.typePairs_eq (h : a.Same b) : a.typePairs name = b.typePairs name := by
  have hpairs : (a.walk name).mapM (fun child => child.2.ownTypePair child.1) =
      (b.walk name).mapM fun child => child.2.ownTypePair child.1 :=
    mapM_eq_of_forall₂ (h.walk name) fun c d hcd => by rw [hcd.1, hcd.2.ownTypePair_eq]
  rw [typePairs_eq_ownPairs, typePairs_eq_ownPairs, ownPairs, ownPairs, hpairs]

/-! ### Adapters -/

namespace Node

theorem conversions_eq_of_same {kind : NodeKind} {x y : NestedObject Node} (h : x.Same y) :
    conversions name kind x = conversions name kind y := by
  have hattributes : x.attributes.mapM (fun child => child.2.conversion child.1) =
      y.attributes.mapM fun child => child.2.conversion child.1 :=
    mapM_eq_of_forall₂ h.attributes.entry fun c d hcd => by rw [hcd.1, hcd.2.conversion_eq]
  rw [conversions, conversions, h.generatesType_eq, hattributes]
  have hblocks := h.blocks.entry
  generalize x.blocks = as at hblocks ⊢
  generalize y.blocks = bs at hblocks ⊢
  cases hblocks with
  | nil => rfl
  | cons hblock _ => simp only [hblock.1, hblock.2.kind_eq]

theorem Same.ownAdapters_eq (h : a.Same b) : a.ownAdapters name = b.ownAdapters name := by
  cases h.alike with
  | nested kind facets object =>
    simp only [ownAdapters, object?, object.external, conversions_eq_of_same object, Node.kind]
  | _ => rfl

theorem Same.adapters_eq (h : a.Same b) : a.adapters name = b.adapters name := by
  by_cases hbound : a.isBound = true
  · have hall : ((a.preorder name).filter (·.2.isBound)).mapM
          (fun child => child.2.ownAdapters child.1) =
        ((b.preorder name).filter (·.2.isBound)).mapM
          fun child => child.2.ownAdapters child.1 := by
      rw [preorder_eq, preorder_eq]
      have hbounds : Forall₂ SameEntry ((a.walk name).filter (·.2.isBound))
          ((b.walk name).filter (·.2.isBound)) :=
        List.rel_filter (fun c d hcd => by simp only [hcd.2.isBound_eq]) (h.walk name)
      exact mapM_eq_of_forall₂ hbounds fun c d hcd => by rw [hcd.1, hcd.2.ownAdapters_eq]
    rw [Node.adapters_eq hbound, Node.adapters_eq (h.isBound_eq ▸ hbound), hall]
  · rw [Bool.not_eq_true] at hbound
    rw [adapters_of_unbound hbound, adapters_of_unbound (h.isBound_eq ▸ hbound)]

end Node

/-! ### Imports -/

theorem NodeFacets.default_of_beq {f g : NodeFacets} {d' : DefaultValue} (h : (f == g) = true)
    (hd' : g.default = some d') : ∃ d, f.default = some d ∧ d.Same d' := by
  have hdefault := (NodeFacets.beq_iff.mp h).2.1
  rw [hd'] at hdefault
  cases hd : f.default with
  | none => rw [hd] at hdefault; cases hdefault
  | some d =>
    rw [hd, Option.some_beq_some] at hdefault
    exact ⟨d, rfl, DefaultValue.same_of_beq hdefault⟩

namespace Node

/-- **Equal nodes bring the same imports** by themselves. -/
theorem Same.brings {i : Import} (h : a.Same b) (hi : b.Brings i) : a.Brings i := by
  obtain ⟨⟨-, hcustom, -⟩, -, hplans, hvalidators⟩ := NodeFacets.beq_iff.mp h.facets
  cases hi with
  | values collective hi => exact .values (h.kind_eq ▸ collective) (hcustom ▸ hi)
  | elementType eq hi =>
    subst eq
    cases h.alike with
    | collection shape element facets => exact .elementType rfl hi
  | attributeTypes eq hi =>
    subst eq
    cases h.alike with
    | object types facets => exact .attributeTypes rfl hi
  | default given hi =>
    obtain ⟨d, hd, hsame⟩ := NodeFacets.default_of_beq h.facets given
    exact .default hd (hsame.brings hi)
  | planModifier hi => exact .planModifier (Extensions.brings_of_beq hplans hi)
  | validator hi => exact .validator (Extensions.brings_of_beq hvalidators hi)
  | attr owned plain hi =>
    obtain ⟨x, hx, hobject⟩ := h.symm.object owned
    exact .attr hx (hobject.customType ▸ plain) hi
  | objectType owned hi =>
    obtain ⟨x, hx, hobject⟩ := h.symm.object owned
    exact .objectType hx (hobject.customType ▸ hi)
  | objectPlanModifier owned hi =>
    obtain ⟨x, hx, hobject⟩ := h.symm.object owned
    have hplans := PartialEquivBEq.symm hobject.planModifiers
    exact .objectPlanModifier hx (Extensions.brings_of_beq hplans hi)
  | objectValidator owned hi =>
    obtain ⟨x, hx, hobject⟩ := h.symm.object owned
    have hvalidators := PartialEquivBEq.symm hobject.validators
    exact .objectValidator hx (Extensions.brings_of_beq hvalidators hi)
  | external owned bound hi =>
    obtain ⟨x, hx, hobject⟩ := h.symm.object owned
    exact .external hx (hobject.external ▸ bound) hi

theorem Same.imports_eq (h : a.Same b) : a.imports = b.imports := by
  have hsub : ∀ {a b : Node} {i : Import}, a.Same b → i ∈ b.imports → i ∈ a.imports := by
    intro a b i h hi
    obtain ⟨inner, hreaches, hbrings⟩ := mem_imports.mp hi
    obtain ⟨key, hinner⟩ := reaches_iff_mem_walk.mp hreaches
    obtain ⟨⟨key', outer⟩, houter, -, hsame⟩ := exists_partner (h.walk "") hinner
    exact mem_imports.mpr ⟨outer, reaches_iff_mem_walk.mpr ⟨key', houter⟩, hsame.brings hbrings⟩
  exact Imports.ext_mem fun i => ⟨hsub h.symm, hsub h⟩

end Node

/-! ### The theorem -/

/-- **What equal nodes generate.**  Two nodes that are equal have the same imports, and under each
name they give the same type pairs and adapters, or the same error, and they are the same field of a
model and of a generated type and are converted in the same way. -/
theorem output_of_equal {a b : Node} (h : a.equal b = true) :
    a.imports = b.imports ∧ ∀ name : String,
      a.typePairs name = b.typePairs name ∧ a.adapters name = b.adapters name ∧
      a.modelField name = b.modelField name ∧ a.fieldDescriptor name = b.fieldDescriptor name ∧
      a.conversion name = b.conversion name := by
  have hsame : a.Same b := Node.equal_iff.mp h
  exact ⟨hsame.imports_eq, fun name => ⟨hsame.typePairs_eq, hsame.adapters_eq,
    hsame.modelField_eq, hsame.fieldDescriptor_eq, hsame.conversion_eq⟩⟩

/-- Two packages that a definition needs. -/
def checkImports : List Import := [{ path := "example.com/check" }, { path := "example.com/rule" }]

/-- A bound object whose plan modifier and validator, and whose name's default and validator, are
one definition with the imports. -/
def checkedNode (imports : List Import) : Node :=
  let definition : Definition := { imports, expression := "check.Rule(rule.Name)" }
  .nested .singleAttribute
    { planModifiers := ⟨.object, [definition]⟩, validators := ⟨.object, []⟩ }
    { external := some { type := "*api.Rule" }
      validators := ⟨.object, [definition]⟩
      attributes := [
        ("name", .scalar .string
          { default := some (.custom definition), planModifiers := ⟨.scalar .string, []⟩,
            validators := ⟨.scalar .string, [definition]⟩ })] }

/-- With the imports in another order the nodes are not identical, and yet generate the same. -/
theorem output_of_equal_checkedNode :
    checkedNode checkImports ≠ checkedNode checkImports.reverse ∧
    (checkedNode checkImports).equal (checkedNode checkImports.reverse) = true ∧
    (checkedNode checkImports).imports = (checkedNode checkImports.reverse).imports ∧
    (checkedNode checkImports).adapters "rule" =
      (checkedNode checkImports.reverse).adapters "rule" := by
  have hequal : (checkedNode checkImports).equal (checkedNode checkImports.reverse) = true := by
    have hperm := (List.reverse_perm checkImports).symm
    have hdefinition : ((⟨checkImports, "check.Rule(rule.Name)"⟩ : Definition) ==
        ⟨checkImports.reverse, "check.Rule(rule.Name)"⟩) = true :=
      Definition.beq_iff.mpr ⟨rfl, hperm⟩
    rw [Node.equal_iff]
    simp [checkedNode, Node.Same, SameChildren, NodeFacets.beq_iff, Extensions.beq_iff, hdefinition,
      DefaultValue.beq_of_same (.custom hdefinition)]
  have hne : checkedNode checkImports ≠ checkedNode checkImports.reverse := fun h => by
    simp [checkedNode, checkImports] at h
  have houtput := output_of_equal hequal
  exact ⟨hne, hequal, houtput.1, (houtput.2 "rule").2.1⟩

end ProviderCode
