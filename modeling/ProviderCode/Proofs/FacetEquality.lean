import Mathlib
import ProviderCode.Node.Basic

/-!
# Equality of facets

When two facets are equal.  Floats are equal as numbers are: zeros of both signs are one number, and
what is not a number is equal to nothing.  Definitions are equal up to the order of their imports.
All this is symmetric and transitive, and only a default that is not a number is not equal to
itself.
-/

namespace ProviderCode

/-! ### Lists and options -/

section Containers

variable {α : Type} [BEq α] [PartialEquivBEq α]

theorem option_beq_symm : ∀ {a b : Option α}, (a == b) = true → (b == a) = true
  | none, none, _ => rfl
  | some a, some b, h => by
    rw [Option.some_beq_some] at h ⊢
    exact PartialEquivBEq.symm h

theorem option_beq_trans : ∀ {a b c : Option α}, (a == b) = true → (b == c) = true → (a == c) = true
  | none, none, none, _, _ => rfl
  | some a, some b, some c, h, h' => by
    rw [Option.some_beq_some] at h h' ⊢
    exact PartialEquivBEq.trans h h'

instance partialEquivBEqOption : PartialEquivBEq (Option α) := ⟨option_beq_symm, option_beq_trans⟩

theorem list_beq_symm : ∀ {as bs : List α}, (as == bs) = true → (bs == as) = true
  | [], [], _ => rfl
  | a :: as, b :: bs, h => by
    rw [List.cons_beq_cons, Bool.and_eq_true] at h ⊢
    exact ⟨PartialEquivBEq.symm h.1, list_beq_symm h.2⟩

theorem list_beq_trans : ∀ {as bs cs : List α}, (as == bs) = true → (bs == cs) = true →
    (as == cs) = true
  | [], [], [], _, _ => rfl
  | a :: as, b :: bs, c :: cs, h, h' => by
    rw [List.cons_beq_cons, Bool.and_eq_true] at h h' ⊢
    exact ⟨PartialEquivBEq.trans h.1 h'.1, list_beq_trans h.2 h'.2⟩

instance partialEquivBEqList : PartialEquivBEq (List α) := ⟨list_beq_symm, list_beq_trans⟩

end Containers

/-! ### Definitions and extensions -/

instance : EquivBEq Definition where
  symm {a b} h := by
    change Definition.same a b = true at h
    show Definition.same b a = true
    simp only [Definition.same, Bool.and_eq_true, beq_iff_eq] at h ⊢
    exact ⟨⟨h.1.1.symm, h.1.2.symm⟩, h.2.symm⟩
  trans {a b c} h h' := by
    change Definition.same a b = true at h
    change Definition.same b c = true at h'
    show Definition.same a c = true
    simp only [Definition.same, Bool.and_eq_true, beq_iff_eq] at h h' ⊢
    exact ⟨⟨h.1.1.trans h'.1.1, h.1.2.trans h'.1.2⟩, h.2.trans h'.2⟩
  rfl {a} := by
    show Definition.same a a = true
    simp only [Definition.same, Bool.and_eq_true, beq_iff_eq, and_self]

theorem Extensions.beq_iff {e e' : Extensions} :
    (e == e') = true ↔ e.kind = e'.kind ∧ (e.definitions == e'.definitions) = true := by
  show (e.kind == e'.kind && e.definitions == e'.definitions) = true ↔ _
  rw [Bool.and_eq_true, beq_iff_eq]

instance : EquivBEq Extensions where
  symm h := by
    obtain ⟨hkind, hdefinitions⟩ := Extensions.beq_iff.mp h
    exact Extensions.beq_iff.mpr ⟨hkind.symm, PartialEquivBEq.symm hdefinitions⟩
  trans h h' := by
    obtain ⟨hkind, hdefinitions⟩ := Extensions.beq_iff.mp h
    obtain ⟨hkind', hdefinitions'⟩ := Extensions.beq_iff.mp h'
    exact Extensions.beq_iff.mpr
      ⟨hkind.trans hkind', PartialEquivBEq.trans hdefinitions hdefinitions'⟩
  rfl := Extensions.beq_iff.mpr ⟨rfl, BEq.rfl⟩

/-! ### Defaults and facets -/

/-- Defaults of one sort with equal values. -/
inductive DefaultValue.Same : DefaultValue → DefaultValue → Prop
  | bool (b : Bool) : Same (.bool b) (.bool b)
  | float64 {x y : Float} (h : (x == y) = true) : Same (.float64 x) (.float64 y)
  | int64 (i : Int64) : Same (.int64 i) (.int64 i)
  | string (s : String) : Same (.string s) (.string s)
  | custom {d e : Definition} (h : (d == e) = true) : Same (.custom d) (.custom e)

namespace DefaultValue

theorem same_of_beq : ∀ {a b : DefaultValue}, (a == b) = true → a.Same b
  | .bool x, .bool y, h => by
    obtain rfl : x = y := eq_of_beq h
    exact .bool x
  | .float64 _, .float64 _, h => .float64 h
  | .int64 i, .int64 j, h => by
    obtain rfl : i = j := eq_of_beq h
    exact .int64 i
  | .string s, .string t, h => by
    obtain rfl : s = t := eq_of_beq h
    exact .string s
  | .custom _, .custom _, h => .custom h

theorem beq_of_same {a b : DefaultValue} : a.Same b → (a == b) = true
  | .bool b => beq_self_eq_true b
  | .float64 h => h
  | .int64 i => beq_self_eq_true i
  | .string s => beq_self_eq_true s
  | .custom h => h

theorem Same.symm {a b : DefaultValue} : a.Same b → b.Same a
  | .bool b => .bool b
  | .float64 h => .float64 (PartialEquivBEq.symm h)
  | .int64 i => .int64 i
  | .string s => .string s
  | .custom h => .custom (PartialEquivBEq.symm h)

theorem Same.trans {a b c : DefaultValue} : a.Same b → b.Same c → a.Same c
  | .bool b, .bool _ => .bool b
  | .float64 h, .float64 h' => .float64 (PartialEquivBEq.trans h h')
  | .int64 i, .int64 _ => .int64 i
  | .string s, .string _ => .string s
  | .custom h, .custom h' => .custom (PartialEquivBEq.trans h h')

instance : PartialEquivBEq DefaultValue where
  symm h := beq_of_same (same_of_beq h).symm
  trans h h' := beq_of_same ((same_of_beq h).trans (same_of_beq h'))

/-- A default that is a number if it is a float. -/
def IsNumber : DefaultValue → Prop
  | .float64 x => x.isNaN = false
  | .bool _ | .int64 _ | .string _ | .custom _ => True

theorem beq_self_iff {a : DefaultValue} : (a == a) = true ↔ a.IsNumber := by
  cases a with
  | float64 x =>
    show (x == x) = true ↔ x.isNaN = false
    rw [Float.beq_self_iff, Float.isNaN_eq_decide_eq_nan, decide_eq_false_iff_not]
  | bool b => exact iff_of_true (beq_of_same (.bool b)) trivial
  | int64 i => exact iff_of_true (beq_of_same (.int64 i)) trivial
  | string s => exact iff_of_true (beq_of_same (.string s)) trivial
  | custom d => exact iff_of_true (beq_of_same (.custom BEq.rfl)) trivial

end DefaultValue

namespace NodeFacets

/-- Facets are equal one by one. -/
theorem beq_iff {f g : NodeFacets} : (f == g) = true ↔
    (f.mode = g.mode ∧ f.customType = g.customType ∧ f.deprecation = g.deprecation ∧
      f.description = g.description ∧ f.sensitive = g.sensitive) ∧
    (f.default == g.default) = true ∧ (f.planModifiers == g.planModifiers) = true ∧
      (f.validators == g.validators) = true := by
  show (f.mode == g.mode && (f.customType == g.customType && (f.default == g.default &&
    (f.deprecation == g.deprecation && (f.description == g.description &&
      (f.planModifiers == g.planModifiers && (f.sensitive == g.sensitive &&
        f.validators == g.validators))))))) = true ↔ _
  simp only [Bool.and_eq_true, beq_iff_eq]
  constructor
  · rintro ⟨hm, hc, hd, hp, hs, hl, he, hv⟩
    exact ⟨⟨hm, hc, hp, hs, he⟩, hd, hl, hv⟩
  · rintro ⟨⟨hm, hc, hp, hs, he⟩, hd, hl, hv⟩
    exact ⟨hm, hc, hd, hp, hs, hl, he, hv⟩

instance : PartialEquivBEq NodeFacets where
  symm h := by
    obtain ⟨⟨hm, hc, hp, hs, he⟩, hd, hl, hv⟩ := beq_iff.mp h
    exact beq_iff.mpr ⟨⟨hm.symm, hc.symm, hp.symm, hs.symm, he.symm⟩, PartialEquivBEq.symm hd,
      PartialEquivBEq.symm hl, PartialEquivBEq.symm hv⟩
  trans h h' := by
    obtain ⟨⟨hm, hc, hp, hs, he⟩, hd, hl, hv⟩ := beq_iff.mp h
    obtain ⟨⟨hm', hc', hp', hs', he'⟩, hd', hl', hv'⟩ := beq_iff.mp h'
    exact beq_iff.mpr ⟨⟨hm.trans hm', hc.trans hc', hp.trans hp', hs.trans hs', he.trans he'⟩,
      PartialEquivBEq.trans hd hd', PartialEquivBEq.trans hl hl', PartialEquivBEq.trans hv hv'⟩

/-- The default of a facet, if it is a float, is a number. -/
def NumberDefault (f : NodeFacets) : Prop := ∀ d, f.default = some d → d.IsNumber

theorem beq_self_iff {f : NodeFacets} : (f == f) = true ↔ f.NumberDefault := by
  have hdefault : (f.default == f.default) = true ↔ f.NumberDefault := by
    rw [NumberDefault]
    cases f.default with
    | none => exact iff_of_true rfl fun _ h => nomatch h
    | some d =>
      rw [Option.some_beq_some, DefaultValue.beq_self_iff]
      exact ⟨fun h _ he => Option.some.inj he ▸ h, fun h => h d rfl⟩
  rw [beq_iff, ← hdefault]
  exact ⟨fun h => h.2.1, fun h => ⟨⟨rfl, rfl, rfl, rfl, rfl⟩, h, BEq.rfl, BEq.rfl⟩⟩

end NodeFacets

/-! ### Element types -/

namespace ElementType

mutual

theorem same_iff : ∀ {a b : ElementType}, a.same b = true ↔ a = b
  | .scalar s c, .scalar s' c' => by
    simp only [same, Bool.and_eq_true, beq_iff_eq, scalar.injEq]
  | .collection s c e, .collection s' c' e' => by
    simp only [same, Bool.and_eq_true, beq_iff_eq, collection.injEq, same_iff, and_assoc]
  | .object c as, .object c' as' => by
    simp only [same, Bool.and_eq_true, beq_iff_eq, object.injEq, sameAttributes_iff]
  | .scalar _ _, .collection _ _ _ | .scalar _ _, .object _ _ | .collection _ _ _, .scalar _ _
  | .collection _ _ _, .object _ _ | .object _ _, .scalar _ _ | .object _ _, .collection _ _ _ => by
    simp only [same, Bool.false_eq_true, reduceCtorEq]

theorem sameAttributes_iff : ∀ {as bs : List (String × ElementType)},
    sameAttributes as bs = true ↔ as = bs
  | [], [] => by simp only [sameAttributes]
  | (name, type) :: as, (name', type') :: bs => by
    simp only [sameAttributes, Bool.and_eq_true, beq_iff_eq, same_iff, sameAttributes_iff,
      List.cons.injEq, Prod.mk.injEq]
  | [], _ :: _ | _ :: _, [] => by simp only [sameAttributes, Bool.false_eq_true, reduceCtorEq]

end

instance : LawfulBEq ElementType where
  eq_of_beq h := same_iff.mp h
  rfl := same_iff.mpr rfl

end ElementType

end ProviderCode
