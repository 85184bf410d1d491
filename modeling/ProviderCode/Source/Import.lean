/-!
# Imports

One import of a generated file: a package path, and the name under which the package is used if that
is not its own. Imports are ordered by path and then by name, an import without a name first; texts
are compared by code points.
-/

namespace ProviderCode

structure Import where
  path : String
  /-- The name that is given to the package in the file. -/
  localName : Option String := none
deriving DecidableEq, Repr

namespace Import

/-- Whether the import names a package at all. -/
def hasPath (i : Import) : Bool := !i.path.isEmpty

/-- The order of names: none is the least. -/
def LocalNameLt : Option String → Option String → Prop
  | none, some _ => True
  | some a, some b => a < b
  | _, none => False

instance : (a b : Option String) → Decidable (LocalNameLt a b)
  | none, some _ => isTrue trivial
  | some a, some b => inferInstanceAs (Decidable (a < b))
  | none, none => isFalse id
  | some _, none => isFalse id

theorem LocalNameLt.irrefl : ∀ a, ¬ LocalNameLt a a
  | none => id
  | some a => String.lt_irrefl a

theorem LocalNameLt.trans : ∀ {a b c}, LocalNameLt a b → LocalNameLt b c → LocalNameLt a c
  | none, some _, some _, _, _ => trivial
  | some _, some _, some _, h, h' => String.lt_trans h h'
  | _, none, _, h, _ => by rename_i a _ _; cases a <;> exact h.elim
  | _, some _, none, _, h => h.elim

theorem LocalNameLt.connected : ∀ {a b}, ¬ LocalNameLt a b → a ≠ b → LocalNameLt b a
  | none, none, _, h => (h rfl).elim
  | none, some _, h, _ => (h trivial).elim
  | some _, none, _, _ => trivial
  | some a, some b, h, hne => by
    by_cases hba : b < a
    · exact hba
    · have hab := String.le_antisymm (String.not_lt.mp hba) (String.not_lt.mp h)
      exact (hne (congrArg some hab)).elim

instance : LT Import where
  lt a b := a.path < b.path ∨ (a.path = b.path ∧ LocalNameLt a.localName b.localName)

instance (a b : Import) : Decidable (a < b) :=
  inferInstanceAs
    (Decidable (a.path < b.path ∨ (a.path = b.path ∧ LocalNameLt a.localName b.localName)))

theorem lt_iff {a b : Import} :
    a < b ↔ a.path < b.path ∨ (a.path = b.path ∧ LocalNameLt a.localName b.localName) := Iff.rfl

theorem lt_irrefl (a : Import) : ¬ a < a := by
  rintro (h | ⟨-, h⟩)
  · exact String.lt_irrefl _ h
  · exact LocalNameLt.irrefl _ h

theorem lt_trans {a b c : Import} : a < b → b < c → a < c := by
  rintro (h | ⟨h, h'⟩) (k | ⟨k, k'⟩)
  · exact .inl (String.lt_trans h k)
  · exact .inl (k ▸ h)
  · exact .inl (h ▸ k)
  · exact .inr ⟨h.trans k, h'.trans k'⟩

theorem lt_of_not_lt {a b : Import} (h : ¬ a < b) (hne : a ≠ b) : b < a := by
  rw [lt_iff, not_or, not_and] at h
  by_cases hp : a.path = b.path
  · refine .inr ⟨hp.symm, LocalNameLt.connected (h.2 hp) fun ha => hne ?_⟩
    cases a; cases b; simp_all
  · refine .inl ?_
    by_cases hba : b.path < a.path
    · exact hba
    · exact (hp (String.le_antisymm (String.not_lt.mp hba) (String.not_lt.mp h.1))).elim

/-- Below in the order, or the same. -/
def le (a b : Import) : Bool := a < b || a = b

end Import

end ProviderCode
