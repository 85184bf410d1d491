import ProviderCode.Proofs.FacetEquality
import ProviderCode.Proofs.NodeImports
import ProviderCode.Proofs.Results

/-!
# Equal definitions

A definition is an expression with the imports it needs.  Equality does not count the order of the
imports, but how often each of them is there, and the paths and names of imports both count.

Main statement: equality of definitions is this relation, it is an equivalence, and where one definition
stands for an equal one in a default or in a list of validators or plan modifiers, the clause of the facet
and its imports stay the same.
-/

namespace ProviderCode

open List (Forall₂)

/-! ### The order of imports -/

theorem Import.le_iff {i j : Import} : i.le j = true ↔ i < j ∨ i = j := by
  rw [le, Bool.or_eq_true, decide_eq_true_iff, decide_eq_true_iff]

theorem Import.le_antisymm {i j : Import} (h : i.le j = true) (h' : j.le i = true) : i = j := by
  rcases le_iff.mp h with hlt | rfl
  · rcases le_iff.mp h' with hlt' | rfl
    · exact absurd (lt_trans hlt hlt') (lt_irrefl i)
    · rfl
  · rfl

theorem Import.le_trans {i j k : Import} (h : i.le j = true) (h' : j.le k = true) :
    i.le k = true := by
  rcases le_iff.mp h with hlt | rfl
  · rcases le_iff.mp h' with hlt' | rfl
    · exact le_iff.mpr (.inl (lt_trans hlt hlt'))
    · exact h
  · exact h'

theorem Import.le_total (i j : Import) : (i.le j || j.le i) = true := by
  rw [Bool.or_eq_true, le_iff, le_iff]
  by_cases hlt : i < j
  · exact .inl (.inl hlt)
  · by_cases heq : i = j
    · exact .inl (.inr heq)
    · exact .inr (.inl (lt_of_not_lt hlt heq))

/-! ### Equality -/

/-- Equal definitions have the same expression, and the same imports in some order. -/
theorem Definition.beq_iff {d e : Definition} :
    (d == e) = true ↔ d.expression = e.expression ∧ d.imports.Perm e.imports := by
  show Definition.same d e = true ↔ _
  simp only [same, Bool.and_eq_true, beq_iff_eq]
  constructor
  · rintro ⟨⟨hexpression, -⟩, hsorted⟩
    have hd := List.mergeSort_perm d.imports Import.le
    rw [hsorted] at hd
    exact ⟨hexpression, hd.symm.trans (List.mergeSort_perm e.imports Import.le)⟩
  · rintro ⟨hexpression, hperm⟩
    have hsorted (imports : List Import) :
        (imports.mergeSort Import.le).Pairwise fun i j => i.le j = true :=
      @List.pairwise_mergeSort _ Import.le (fun _ _ _ => Import.le_trans) Import.le_total imports
    have hperms : (d.imports.mergeSort Import.le).Perm (e.imports.mergeSort Import.le) :=
      ((List.mergeSort_perm _ _).trans hperm).trans (List.mergeSort_perm _ _).symm
    exact ⟨⟨hexpression, hperm.length_eq⟩,
      hperms.eq_of_pairwise (fun _ _ _ _ => Import.le_antisymm) (hsorted _) (hsorted _)⟩

/-- Equal definitions have each import equally often. -/
theorem Definition.beq_iff_count {d e : Definition} : (d == e) = true ↔
    d.expression = e.expression ∧ ∀ i, d.imports.count i = e.imports.count i := by
  rw [beq_iff, List.perm_iff_count]

theorem Definition.equivalence_beq : Equivalence fun d e : Definition => (d == e) = true :=
  ⟨fun _ => BEq.rfl, PartialEquivBEq.symm, PartialEquivBEq.trans⟩

/-- Lists are equal if their members are side by side. -/
theorem forall₂_of_beq {α : Type} [BEq α] : ∀ {as bs : List α}, (as == bs) = true →
    Forall₂ (fun a b => (a == b) = true) as bs
  | [], [], _ => .nil
  | a :: as, b :: bs, h => by
    rw [List.cons_beq_cons, Bool.and_eq_true] at h
    exact .cons h.1 (forall₂_of_beq h.2)

/-! ### Clauses and imports of facets -/

theorem Extensions.clause_eq {e e' : Extensions} (h : (e == e') = true) (field : String)
    (package : Package) : e.clause field package = e'.clause field package := by
  obtain ⟨hkind, hdefinitions⟩ := Extensions.beq_iff.mp h
  have hexpressions : e.definitions.map (·.expression) = e'.definitions.map (·.expression) :=
    map_eq_of_forall₂ (forall₂_of_beq hdefinitions) fun d d' hd => (Definition.beq_iff.mp hd).1
  -- a clause shows only the expressions
  have hclause : ∀ e : Extensions, e.clause field package =
      if (e.definitions.map (·.expression)).isEmpty then []
      else Source.enclose
        [.fixed (field ++ ": []"), .qualified package e.kind.framework, .fixed "\x7b\n"]
        ((e.definitions.map (·.expression)).flatMap fun x => [.verbatim x, .fixed ",\n"])
        [.fixed "\x7d,\n"] := fun e => by
    rw [List.isEmpty_map, List.flatMap_map]
    rfl
  rw [hclause e, hclause e', hkind, hexpressions]

theorem Extensions.brings_of_beq {package : Package} {e e' : Extensions} {i : Import}
    (h : (e == e') = true) (hi : e'.Brings package i) : e.Brings package i := by
  obtain ⟨d', hd', j, hj, hpath, hij⟩ := hi
  obtain ⟨d, hd, heq⟩ := exists_partner (forall₂_of_beq (Extensions.beq_iff.mp h).2) hd'
  exact ⟨d, hd, j, (Definition.beq_iff.mp heq).2.mem_iff.mpr hj, hpath, hij⟩

theorem Extensions.imports_eq {e e' : Extensions} (h : (e == e') = true) (package : Package) :
    e.imports package = e'.imports package :=
  Imports.ext_mem fun i => by
    rw [mem_imports, mem_imports]
    exact ⟨brings_of_beq (PartialEquivBEq.symm h), brings_of_beq h⟩

/-- Of extensions that are equal side by side equal definitions are kept. -/
theorem Extensions.ofList_beq (kind : ValueKind) {as bs : List Extension}
    (h : Forall₂ (fun a b => (a == b) = true) as bs) : (ofList kind as == ofList kind bs) = true := by
  refine Extensions.beq_iff.mpr ⟨rfl, ?_⟩
  show (as.filterMap (·.custom) == bs.filterMap (·.custom)) = true
  induction h with
  | nil => rfl
  | @cons a b as bs hab _ ih =>
    obtain ⟨custom⟩ := a
    obtain ⟨custom'⟩ := b
    have hcustom : (custom == custom') = true := hab
    cases custom <;> cases custom'
    case none.none => exact ih
    case some.some d e =>
      rw [Option.some_beq_some] at hcustom
      show (d :: as.filterMap (·.custom) == e :: bs.filterMap (·.custom)) = true
      rw [List.cons_beq_cons, hcustom, ih]
      rfl
    all_goals cases hcustom

theorem DefaultValue.Same.brings {d d' : DefaultValue} {i : Import} (h : d.Same d')
    (hi : d'.Brings i) : d.Brings i := by
  cases h with
  | custom heq => exact ⟨(Definition.beq_iff.mp heq).2.mem_iff.mpr hi.1, hi.2⟩
  | _ => exact hi

/-- Where a literal is given it counts, and else equal definitions have the same clause. -/
theorem Default.choose_congr {τ : Type} (literal : τ → DefaultValue) (value : Option τ)
    {d e : Definition} (h : (d == e) = true) :
    ((⟨value, some d⟩ : Default τ).choose literal).map DefaultValue.clause =
        ((⟨value, some e⟩ : Default τ).choose literal).map DefaultValue.clause ∧
      ((⟨value, some d⟩ : Default τ).choose literal).map DefaultValue.imports =
        ((⟨value, some e⟩ : Default τ).choose literal).map DefaultValue.imports := by
  cases value with
  | some a => exact ⟨rfl, rfl⟩
  | none =>
    have hclause : (DefaultValue.custom d).clause = (DefaultValue.custom e).clause := by
      rw [DefaultValue.clause, DefaultValue.clause, DefaultValue.expression, DefaultValue.expression,
        (Definition.beq_iff.mp h).1]
    have himports : (DefaultValue.custom d).imports = (DefaultValue.custom e).imports := by
      have hsame : (DefaultValue.custom d).Same (.custom e) := .custom h
      refine Imports.ext_mem fun i => ?_
      rw [DefaultValue.mem_imports, DefaultValue.mem_imports]
      exact ⟨hsame.symm.brings, hsame.brings⟩
    exact ⟨congrArg some hclause, congrArg some himports⟩

/-! ### The theorem -/

/-- **Equal definitions** have one expression and the same imports in some order, each equally often.
This is an equivalence relation.  With equal definitions in their places, a default and lists of
validators and plan modifiers have the same clause and the same imports. -/
theorem equal_definitions :
    (∀ d e : Definition, (d == e) = true ↔ d.expression = e.expression ∧ d.imports.Perm e.imports) ∧
    (∀ d e : Definition, (d == e) = true ↔ d.expression = e.expression ∧
      ∀ path localName, d.imports.count ⟨path, localName⟩ = e.imports.count ⟨path, localName⟩) ∧
    Equivalence (fun d e : Definition => (d == e) = true) ∧
    (∀ (τ : Type) (literal : τ → DefaultValue) (value : Option τ) (d e : Definition), (d == e) = true →
      ((⟨value, some d⟩ : Default τ).choose literal).map DefaultValue.clause =
          ((⟨value, some e⟩ : Default τ).choose literal).map DefaultValue.clause ∧
        ((⟨value, some d⟩ : Default τ).choose literal).map DefaultValue.imports =
          ((⟨value, some e⟩ : Default τ).choose literal).map DefaultValue.imports) ∧
    ∀ (kind : ValueKind) (as bs : List Extension), Forall₂ (fun a b => (a == b) = true) as bs →
      (Extensions.ofList kind as).validatorsClause = (Extensions.ofList kind bs).validatorsClause ∧
      (Extensions.ofList kind as).validatorsImports = (Extensions.ofList kind bs).validatorsImports ∧
      (Extensions.ofList kind as).planModifiersClause =
        (Extensions.ofList kind bs).planModifiersClause ∧
      (Extensions.ofList kind as).planModifiersImports =
        (Extensions.ofList kind bs).planModifiersImports := by
  refine ⟨fun d e => Definition.beq_iff, fun d e => ?count, Definition.equivalence_beq,
    fun τ literal value d e h => Default.choose_congr literal value h, fun kind as bs h => ?lists⟩
  case count =>
    rw [Definition.beq_iff_count]
    exact and_congr_right fun _ => ⟨fun h path localName => h ⟨path, localName⟩, fun h i => h _ _⟩
  case lists =>
    have hlists := Extensions.ofList_beq kind h
    exact ⟨Extensions.clause_eq hlists _ _, Extensions.imports_eq hlists _,
      Extensions.clause_eq hlists _ _, Extensions.imports_eq hlists _⟩

/-- A definition whose imports are one package twice, once under a name, and one that names no package. -/
def repeatedDefinition : Definition where
  imports := [{ path := "example.com/check" }, { path := "example.com/check", localName := some "c" },
    { path := "" }, { path := "example.com/check" }]
  expression := "check.Rule(c.Name)"

/-- The definition with its imports the other way round. -/
def reversedDefinition : Definition :=
  { repeatedDefinition with imports := repeatedDefinition.imports.reverse }

/-- The definition with one of its imports the less. -/
def onceDefinition : Definition :=
  { repeatedDefinition with imports := repeatedDefinition.imports.tail }

/-- The reversed definition is equal although its list of imports is another one, and may take the
definition's place; the one that leaves out a repeated import is not. -/
theorem equal_definitions_reversedDefinition :
    repeatedDefinition.imports ≠ reversedDefinition.imports ∧
    (repeatedDefinition == reversedDefinition) = true ∧
    (repeatedDefinition == onceDefinition) = false ∧
    (((⟨none, some repeatedDefinition⟩ : Default Bool).choose .bool).map DefaultValue.imports =
      ((⟨none, some reversedDefinition⟩ : Default Bool).choose .bool).map DefaultValue.imports) ∧
    (Extensions.ofList .object [{}, ⟨some repeatedDefinition⟩]).validatorsImports =
      (Extensions.ofList .object [{}, ⟨some reversedDefinition⟩]).validatorsImports := by
  obtain ⟨hperm, hcount, -, hdefault, hlists⟩ := equal_definitions
  have hequal : (repeatedDefinition == reversedDefinition) = true :=
    (hperm _ _).mpr ⟨rfl, (List.reverse_perm _).symm⟩
  have hless : (repeatedDefinition == onceDefinition) = false := by
    refine (Bool.not_eq_true _).mp fun h => ?_
    have htwice := ((hcount _ _).mp h).2 "example.com/check" none
    exact absurd htwice (by decide)
  have hside : Forall₂ (fun a b => (a == b) = true) [{}, (⟨some repeatedDefinition⟩ : Extension)]
      [{}, ⟨some reversedDefinition⟩] := .cons rfl (.cons hequal .nil)
  exact ⟨by decide, hequal, hless, (hdefault Bool .bool none _ _ hequal).2,
    (hlists .object _ _ hside).2.1⟩

end ProviderCode
