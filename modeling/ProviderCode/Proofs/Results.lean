import Mathlib.Data.List.Forall2

/-!
# Results of several steps

When steps that can fail succeed one after the other and with which results, which of them is the first
to fail, and what holds of two lists side by side.
-/

namespace ProviderCode

open List (Forall₂)

variable {ε α β : Type}

/-- Two steps succeed if the first one does and then the second one. -/
theorem bind_eq_ok {x : Except ε α} {f : α → Except ε β} {b : β} :
    x >>= f = .ok b ↔ ∃ a, x = .ok a ∧ f a = .ok b := by
  cases x with
  | error e => exact iff_of_false (fun h => nomatch h) fun ⟨_, h, _⟩ => nomatch h
  | ok a => exact ⟨fun h => ⟨a, rfl, h⟩, fun ⟨_, ha, h⟩ => by cases ha; exact h⟩

theorem map_eq_ok {x : Except ε α} {f : α → β} {b : β} :
    f <$> x = .ok b ↔ ∃ a, x = .ok a ∧ f a = b := by
  cases x with
  | error e => exact iff_of_false (fun h => nomatch h) fun ⟨_, h, _⟩ => nomatch h
  | ok a => exact ⟨fun h => ⟨a, rfl, Except.ok.inj h⟩, fun ⟨_, ha, h⟩ => by cases ha; cases h; rfl⟩

theorem map_eq_error {x : Except ε α} {f : α → β} {e : ε} : f <$> x = .error e ↔ x = .error e := by
  cases x with
  | error e' => exact ⟨fun h => by cases h; rfl, fun h => by cases h; rfl⟩
  | ok a => exact iff_of_false (fun h => nomatch h) fun h => nomatch h

/-- One step for each member succeeds if all steps do. -/
theorem mapM_eq_ok {f : α → Except ε β} : ∀ {as : List α} {bs : List β},
    as.mapM f = .ok bs ↔ Forall₂ (fun a b => f a = .ok b) as bs
  | [], bs => by
    rw [List.mapM_nil, List.forall₂_nil_left_iff]
    exact ⟨fun h => (Except.ok.inj h).symm, fun h => congrArg Except.ok h.symm⟩
  | a :: as, bs => by
    rw [List.mapM_cons, bind_eq_ok, List.forall₂_cons_left_iff]
    constructor
    · rintro ⟨b, hb, hrest⟩
      obtain ⟨rest, hrest, hbs⟩ := bind_eq_ok.mp hrest
      exact ⟨b, rest, hb, mapM_eq_ok.mp hrest, (Except.ok.inj hbs).symm⟩
    · rintro ⟨b, rest, hb, hrest, rfl⟩
      exact ⟨b, hb, bind_eq_ok.mpr ⟨rest, mapM_eq_ok.mpr hrest, rfl⟩⟩

/-- A relation between members side by side may use that the first one is a member. -/
theorem forall₂_imp_of_mem {R S : α → β → Prop} {as : List α} {bs : List β} (h : Forall₂ R as bs)
    (himp : ∀ a b, a ∈ as → R a b → S a b) : Forall₂ S as bs := by
  have hmem : Forall₂ (fun a b => a ∈ as ∧ R a b) as bs :=
    (List.forall₂_and_left as bs).mpr ⟨fun _ ha => ha, h⟩
  exact hmem.imp fun a b hab => himp a b hab.1 hab.2

theorem map_eq_of_forall₂ {γ : Type} {R : α → β → Prop} {f : α → γ} {g : β → γ} {as : List α}
    {bs : List β} (h : Forall₂ R as bs) (heq : ∀ a b, R a b → f a = g b) : as.map f = bs.map g := by
  induction h with
  | nil => rfl
  | cons hab _ ih => rw [List.map_cons, List.map_cons, heq _ _ hab, ih]

/-- Steps that agree for members side by side have the same results, or the same error. -/
theorem mapM_eq_of_forall₂ {γ : Type} {R : α → β → Prop} {f : α → Except ε γ} {g : β → Except ε γ}
    {as : List α} {bs : List β} (h : Forall₂ R as bs) (heq : ∀ a b, R a b → f a = g b) :
    as.mapM f = bs.mapM g := by
  induction h with
  | nil => rfl
  | cons hab _ ih => rw [List.mapM_cons, List.mapM_cons, heq _ _ hab, ih]

/-- A member on the right has a partner on the left. -/
theorem exists_partner {R : α → β → Prop} {as : List α} {bs : List β} (h : Forall₂ R as bs) {b : β}
    (hb : b ∈ bs) : ∃ a ∈ as, R a b := by
  induction h with
  | nil => exact absurd hb List.not_mem_nil
  | cons hd _ ih =>
    rcases List.mem_cons.mp hb with rfl | hb
    · exact ⟨_, List.mem_cons_self, hd⟩
    · obtain ⟨a, ha, hr⟩ := ih hb
      exact ⟨a, List.mem_cons_of_mem _ ha, hr⟩

/-- Partners for all members are partners one by one. -/
theorem exists_forall₂_iff {R : α → β → Prop} : ∀ {as : List α},
    (∃ bs, Forall₂ R as bs) ↔ ∀ a ∈ as, ∃ b, R a b
  | [] => iff_of_true ⟨[], .nil⟩ fun _ ha => absurd ha List.not_mem_nil
  | a :: as => by
    rw [List.forall_mem_cons, ← exists_forall₂_iff]
    constructor
    · rintro ⟨_, hall⟩
      obtain ⟨b, bs, hb, hrest, -⟩ := List.forall₂_cons_left_iff.mp hall
      exact ⟨⟨b, hb⟩, bs, hrest⟩
    · rintro ⟨⟨b, hb⟩, bs, hrest⟩
      exact ⟨b :: bs, .cons hb hrest⟩

/-- Several steps fail with the error of the first one that fails. -/
theorem mapM_eq_error_iff {f : α → Except ε β} {e : ε} : ∀ {as : List α},
    as.mapM f = .error e ↔ ∃ before a after, as = before ++ a :: after ∧
      (∀ b ∈ before, ∃ r, f b = .ok r) ∧ f a = .error e
  | [] => by
    rw [List.mapM_nil]
    refine iff_of_false (fun h => nomatch h) fun ⟨before, a, after, h, _⟩ => ?_
    exact List.append_ne_nil_of_right_ne_nil before (List.cons_ne_nil a after) h.symm
  | a :: as => by
    rw [List.mapM_cons]
    cases ha : f a with
    | error e' =>
      constructor
      · intro h
        cases h
        exact ⟨[], a, as, rfl, fun _ hb => absurd hb List.not_mem_nil, ha⟩
      · rintro ⟨before, a', after, heq, hok, herror⟩
        cases before with
        | nil => cases heq; rw [ha] at herror; cases herror; rfl
        | cons b before =>
          cases heq
          obtain ⟨r, hr⟩ := hok _ List.mem_cons_self
          rw [ha] at hr
          cases hr
    | ok r =>
      have hrest : (do let rs ← as.mapM f; pure (r :: rs) : Except ε (List β)) = .error e ↔
          as.mapM f = .error e := by
        rw [bind_pure_comp]
        exact map_eq_error
      refine hrest.trans (mapM_eq_error_iff.trans ⟨?later, ?earlier⟩)
      case later =>
        rintro ⟨before, a', after, rfl, hok, herror⟩
        exact ⟨a :: before, a', after, rfl, List.forall_mem_cons.mpr ⟨⟨r, ha⟩, hok⟩, herror⟩
      case earlier =>
        rintro ⟨before, a', after, heq, hok, herror⟩
        cases before with
        | nil => cases heq; rw [ha] at herror; cases herror
        | cons b before =>
          cases heq
          exact ⟨before, a', after, rfl, (List.forall_mem_cons.mp hok).2, herror⟩

/-- An error of several steps is that of one of them. -/
theorem mapM_eq_error {f : α → Except ε β} {e : ε} {as : List α} (h : as.mapM f = .error e) :
    ∃ a ∈ as, f a = .error e := by
  obtain ⟨before, a, after, rfl, -, herror⟩ := mapM_eq_error_iff.mp h
  exact ⟨a, List.mem_append_right before List.mem_cons_self, herror⟩

/-! ### Results that are lists -/

/-- Members that have results have at least as many of them as there are members. -/
theorem length_le_flatMap {f : α → List β} (hf : ∀ a, f a ≠ []) (as : List α) :
    as.length ≤ (as.flatMap f).length := by
  induction as with
  | nil => exact Nat.le_refl 0
  | cons a as ih =>
    have hone := List.length_pos_iff.mpr (hf a)
    rw [List.flatMap_cons, List.length_append, List.length_cons]
    omega

/-- The results of all members are one for each exactly if each member has that one. -/
theorem flatMap_eq_map_iff {f : α → List β} {g : α → β} (hf : ∀ a, f a ≠ []) :
    ∀ {as : List α}, as.flatMap f = as.map g ↔ ∀ a ∈ as, f a = [g a]
  | [] => iff_of_true rfl fun _ h => absurd h List.not_mem_nil
  | a :: as => by
    rw [List.flatMap_cons, List.map_cons, List.forall_mem_cons, ← flatMap_eq_map_iff hf]
    constructor
    · intro h
      obtain ⟨b, bs, hresults⟩ := List.exists_cons_of_ne_nil (hf a)
      rw [hresults, List.cons_append, List.cons.injEq] at h
      obtain ⟨rfl, hrest⟩ := h
      -- more than one result here would leave too few for the members after it
      have hlength := congrArg List.length hrest
      have hmany := length_le_flatMap hf as
      rw [List.length_append, List.length_map] at hlength
      obtain rfl : bs = [] := List.eq_nil_of_length_eq_zero (by omega)
      exact ⟨hresults, hrest⟩
    · rintro ⟨hresult, hrest⟩
      rw [hresult, hrest]
      rfl

end ProviderCode
