import Mathlib.Data.List.Nodup
import Mathlib.Data.List.Perm.Basic
import ProviderCode.Proofs.NodeImports

/-!
# Attribute types in another order

The order in which the attribute types of an object are given does not show in generated code: they are
written in the order of their names, and imports have an order of their own.  This holds at every depth,
of lists whose names are different.  Attribute types of one name are kept in their order.

Main statements: element types that differ only in the order of attribute types have the same expression
and the same imports, and so do the types of an object attribute.
-/

namespace ProviderCode.ElementType

/-! ### Entries in the order of their names -/

section Entries

variable {α β : Type}

theorem byName_perm (entries : List (String × α)) : (byName entries).Perm entries :=
  List.mergeSort_perm _ _

theorem mem_byName {entry : String × α} {entries : List (String × α)} :
    entry ∈ byName entries ↔ entry ∈ entries :=
  List.mem_mergeSort

/-- What stands under the names does not count for the order. -/
theorem byName_map (g : α → β) (entries : List (String × α)) :
    byName (entries.map fun entry => (entry.1, g entry.2)) =
      (byName entries).map fun entry => (entry.1, g entry.2) :=
  (List.map_mergeSort (f := fun entry : String × α => (entry.1, g entry.2)) fun _ _ _ _ => rfl).symm

theorem pairwise_byName (entries : List (String × α)) :
    (byName entries).Pairwise fun a b => a.1 ≤ b.1 := by
  have hsorted : (byName entries).Pairwise fun a b => decide (a.1 ≤ b.1) = true :=
    List.pairwise_mergeSort
      (fun a b c hab hbc => by
        rw [decide_eq_true_iff] at hab hbc ⊢
        exact String.le_trans hab hbc)
      (fun a b => by
        rw [Bool.or_eq_true, decide_eq_true_iff, decide_eq_true_iff]
        exact String.le_total a.1 b.1)
      entries
  exact hsorted.imp of_decide_eq_true

/-- Entries of different names have one order. -/
theorem byName_eq_of_perm {as bs : List (String × α)} (hperm : as.Perm bs)
    (hnodup : (as.map (·.1)).Nodup) : byName as = byName bs := by
  have hperms : (byName as).Perm (byName bs) :=
    ((byName_perm as).trans hperm).trans (byName_perm bs).symm
  refine hperms.eq_of_pairwise (fun a b ha hb hab hba => ?_) (pairwise_byName as)
    (pairwise_byName bs)
  have hmem : b ∈ as := hperm.mem_iff.mpr (mem_byName.mp hb)
  exact List.inj_on_of_nodup_map hnodup (mem_byName.mp ha) hmem (String.le_antisymm hab hba)

/-- The same entries in any order, if their names are different. -/
def Rearranged (as bs : List (String × α)) : Prop :=
  as = bs ∨ (as.map (·.1)).Nodup ∧ as.Perm bs

theorem Rearranged.perm {as bs : List (String × α)} (h : Rearranged as bs) : as.Perm bs := by
  rcases h with rfl | ⟨-, hperm⟩
  · exact .refl as
  · exact hperm

theorem Rearranged.byName_eq {as bs : List (String × α)} (h : Rearranged as bs) :
    byName as = byName bs := by
  rcases h with rfl | ⟨hnodup, hperm⟩
  · rfl
  · exact byName_eq_of_perm hperm hnodup

end Entries

/-! ### Element types in another order -/

mutual

/-- Element types that differ only in the order in which attribute types are given, at any depth. -/
def Reordered : ElementType → ElementType → Prop
  | .scalar type custom, b => b = .scalar type custom
  | .collection shape custom element, b =>
    ∃ element', element.Reordered element' ∧ b = .collection shape custom element'
  | .object custom attributes, b =>
    ∃ mid attributes', EachReordered attributes mid ∧ Rearranged mid attributes' ∧
      b = .object custom attributes'
termination_by structural a => a

/-- Attribute types side by side under the same names, each one in another order inside. -/
def EachReordered : List (String × ElementType) → List (String × ElementType) → Prop
  | [], bs => bs = []
  | (name, type) :: rest, bs =>
    ∃ type' rest', type.Reordered type' ∧ EachReordered rest rest' ∧ bs = (name, type') :: rest'
termination_by structural as => as

end

/-- Attribute types in another order, and each one in another order inside. -/
def ListReordered (as bs : List (String × ElementType)) : Prop :=
  ∃ mid, EachReordered as mid ∧ Rearranged mid bs

mutual

theorem Reordered.refl : ∀ type : ElementType, type.Reordered type
  | .scalar _ _ => rfl
  | .collection _ _ element => ⟨element, Reordered.refl element, rfl⟩
  | .object _ attributes => ⟨attributes, attributes, EachReordered.refl attributes, .inl rfl, rfl⟩

theorem EachReordered.refl : ∀ types : List (String × ElementType), EachReordered types types
  | [] => rfl
  | (_, type) :: rest => ⟨type, rest, Reordered.refl type, EachReordered.refl rest, rfl⟩

end

theorem expressions_eq_map (types : List (String × ElementType)) :
    expressions types = types.map fun named => (named.1, named.2.expression) := by
  induction types with
  | nil => rfl
  | cons named rest ih => rw [expressions, ih, List.map_cons]

/-- The map of attribute types in the order of their names. -/
theorem byName_expressions (types : List (String × ElementType)) :
    byName (expressions types) = expressions (byName types) := by
  rw [expressions_eq_map, expressions_eq_map, byName_map]

theorem importsOfAll_eq_of_perm {as bs : List (String × ElementType)} (h : as.Perm bs) :
    importsOfAll as = importsOfAll bs :=
  Imports.ext_mem fun i => by simp only [mem_importsOfAll, h.mem_iff]

mutual

/-- **Expressions** do not show the order of attribute types. -/
theorem Reordered.expression_eq : ∀ {a b : ElementType}, a.Reordered b → a.expression = b.expression
  | .scalar _ _, _, h => by cases h; rfl
  | .collection shape custom element, _, h => by
    obtain ⟨element', hinner, rfl⟩ := h
    cases custom with
    | some custom => rfl
    | none => rw [expression, expression, hinner.expression_eq]
  | .object custom attributes, _, h => by
    obtain ⟨mid, attributes', heach, horder, rfl⟩ := h
    cases custom with
    | some custom => rfl
    | none =>
      rw [expression, expression, EachReordered.expressions_eq heach, byName_expressions,
        byName_expressions, horder.byName_eq]

theorem EachReordered.expressions_eq : ∀ {as bs : List (String × ElementType)},
    EachReordered as bs → expressions as = expressions bs
  | [], _, h => by cases h; rfl
  | (_, _) :: _, _, h => by
    obtain ⟨type', rest', htype, hrest, rfl⟩ := h
    rw [expressions, expressions, htype.expression_eq, EachReordered.expressions_eq hrest]

end

mutual

/-- **Imports** do not depend on the order of attribute types. -/
theorem Reordered.imports_eq : ∀ {a b : ElementType}, a.Reordered b → a.imports = b.imports
  | .scalar _ _, _, h => by cases h; rfl
  | .collection shape custom element, _, h => by
    obtain ⟨element', hinner, rfl⟩ := h
    cases custom with
    | some custom => rfl
    | none => rw [imports, imports, hinner.imports_eq]
  | .object custom attributes, _, h => by
    obtain ⟨mid, attributes', heach, horder, rfl⟩ := h
    cases custom with
    | some custom => rfl
    | none =>
      rw [imports, imports, EachReordered.importsOfAll_eq heach, importsOfAll_eq_of_perm horder.perm]

theorem EachReordered.importsOfAll_eq : ∀ {as bs : List (String × ElementType)},
    EachReordered as bs → importsOfAll as = importsOfAll bs
  | [], _, h => by cases h; rfl
  | (_, _) :: _, _, h => by
    obtain ⟨type', rest', htype, hrest, rfl⟩ := h
    rw [importsOfAll, importsOfAll, htype.imports_eq, EachReordered.importsOfAll_eq hrest]

end

/-! ### The types of an object attribute -/

/-- The types of an object attribute have one expression in every order. -/
theorem ListReordered.expression_eq {as bs : List (String × ElementType)} (h : ListReordered as bs) :
    AttributeTypes.expression (byName as) = AttributeTypes.expression (byName bs) := by
  obtain ⟨mid, heach, horder⟩ := h
  rw [AttributeTypes.expression, AttributeTypes.expression, ← byName_expressions, heach.expressions_eq,
    byName_expressions, horder.byName_eq]

/-- They have the same imports in every order. -/
theorem ListReordered.imports_eq {as bs : List (String × ElementType)} (h : ListReordered as bs) :
    AttributeTypes.imports (byName as) = AttributeTypes.imports (byName bs) := by
  obtain ⟨mid, heach, horder⟩ := h
  rw [AttributeTypes.imports, AttributeTypes.imports, importsOfAll_eq_of_perm (byName_perm as),
    importsOfAll_eq_of_perm (byName_perm bs), heach.importsOfAll_eq, importsOfAll_eq_of_perm horder.perm]

end ProviderCode.ElementType
