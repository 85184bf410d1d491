import ProviderCode.Node.Children

/-!
# Laws of children

Putting a child under a name that is not taken adds one entry and keeps all others.  Putting many
children under different names is adding them all, whatever their order, and of two children under one
name the one that is put later stays.
-/

namespace ProviderCode.Children

open List (Perm)

variable {α : Type}

@[simp] theorem merge_nil (first : Children α) : merge first [] = first := rfl

@[simp] theorem merge_cons (first : Children α) (child : String × α) (second : Children α) :
    merge first (child :: second) = merge (put child.1 child.2 first) second := rfl

theorem mem_keys_merge {first second : Children α} {name : String} :
    name ∈ keys (merge first second) ↔ name ∈ keys first ∨ name ∈ keys second := by
  induction second generalizing first with
  | nil => simp
  | cons child rest ih =>
    rw [merge_cons, ih, mem_keys_put, keys_cons, List.mem_cons, or_assoc, or_left_comm]

theorem sorted_merge {first second : Children α} (h : first.keys.Pairwise (· < ·)) :
    (keys (merge first second)).Pairwise (· < ·) := by
  induction second generalizing first with
  | nil => exact h
  | cons child rest ih => exact ih (sorted_put h)

/-- A new name adds one entry. -/
theorem put_perm {key : String} {a : α} :
    ∀ {children : Children α}, key ∉ children.keys →
      Perm (put key a children) ((key, a) :: children)
  | [], _ => Perm.refl _
  | (k, b) :: rest, h => by
    rw [keys_cons, List.mem_cons, not_or] at h
    simp only [put]
    split
    · exact Perm.refl _
    · rw [if_neg h.1]
      exact ((put_perm h.2).cons _).trans (Perm.swap _ _ _)

/-- Children under new and different names are all added. -/
theorem merge_perm {first second : Children α} (h : (first.keys ++ second.keys).Nodup) :
    Perm (merge first second) (first ++ second) := by
  induction second generalizing first with
  | nil => rw [List.append_nil]; exact Perm.refl _
  | cons child rest ih =>
    have hmove :
        Perm (first.keys ++ keys (child :: rest)) (child.1 :: (first.keys ++ keys rest)) := by
      rw [keys_cons]
      exact List.perm_middle
    obtain ⟨hnew, hrest⟩ := List.nodup_cons.mp (hmove.nodup_iff.mp h)
    have hput : Perm (put child.1 child.2 first) (child :: first) :=
      put_perm fun hin => hnew (List.mem_append_left _ hin)
    have hkeys : Perm (keys (put child.1 child.2 first)) (child.1 :: first.keys) := hput.map _
    have hnodup : (keys (put child.1 child.2 first) ++ keys rest).Nodup :=
      (hkeys.append_right _).nodup_iff.mpr (List.nodup_cons.mpr ⟨hnew, hrest⟩)
    rw [merge_cons]
    exact ((ih hnodup).trans (hput.append_right rest)).trans List.perm_middle.symm

/-- Under one name there is one child. -/
theorem eq_of_mem {key : String} {a b : α} : ∀ {children : Children α}, children.keys.Nodup →
    (key, a) ∈ children → (key, b) ∈ children → a = b
  | (k, c) :: rest, h, ha, hb => by
    rw [keys_cons, List.nodup_cons] at h
    have hfar : ∀ d, (k, d) ∉ rest := fun d hd => h.1 (List.mem_map.mpr ⟨_, hd, rfl⟩)
    rw [List.mem_cons, Prod.mk.injEq] at ha hb
    rcases ha with ⟨rfl, rfl⟩ | ha
    · rcases hb with ⟨-, hb⟩ | hb
      · exact hb.symm
      · exact absurd hb (hfar b)
    · rcases hb with ⟨rfl, rfl⟩ | hb
      · exact absurd ha (hfar a)
      · exact eq_of_mem h.2 ha hb

/-- What stands in a map after a put is what was put or stood there before. -/
theorem mem_put {key : String} {a : α} {child : String × α} :
    ∀ {children : Children α}, child ∈ put key a children → child = (key, a) ∨ child ∈ children
  | [], h => .inl (List.mem_singleton.mp h)
  | (k, b) :: rest, h => by
    simp only [put] at h
    split at h
    · exact List.mem_cons.mp h
    · split at h
      · rcases List.mem_cons.mp h with h | h
        · exact .inl h
        · exact .inr (List.mem_cons_of_mem _ h)
      · rcases List.mem_cons.mp h with h | h
        · exact .inr (h ▸ List.mem_cons_self)
        · rcases mem_put h with h | h
          · exact .inl h
          · exact .inr (List.mem_cons_of_mem _ h)

/-- Merging adds nothing that is in neither of both. -/
theorem mem_merge {child : String × α} {second : Children α} :
    ∀ {first : Children α}, child ∈ merge first second → child ∈ first ∨ child ∈ second := by
  induction second with
  | nil => exact fun h => .inl h
  | cons other rest ih =>
    intro first h
    rcases ih h with h | h
    · rcases mem_put h with h | h
      · exact .inr (h ▸ List.mem_cons_self)
      · exact .inl h
    · exact .inr (List.mem_cons_of_mem _ h)

/-- A put replaces what stands under its name and leaves everything else. -/
theorem mem_put_iff {key : String} {a : α} {child : String × α} {children : Children α}
    (h : children.keys.Pairwise (· < ·)) :
    child ∈ put key a children ↔ child = (key, a) ∨ child ∈ children ∧ child.1 ≠ key := by
  induction children with
  | nil => simp [put]
  | cons first rest ih =>
    rw [keys_cons, List.pairwise_cons] at h
    have hlater : child ∈ rest → first.1 < child.1 := fun hin => h.1 _ (List.mem_map_of_mem hin)
    simp only [put]
    split
    · next hkey =>
      have hother : child ∈ first :: rest → child.1 ≠ key := by
        intro hin
        rcases List.mem_cons.mp hin with rfl | hin
        · exact (String.ne_of_lt hkey).symm
        · exact (String.ne_of_lt (String.lt_trans hkey (hlater hin))).symm
      rw [List.mem_cons, and_iff_left_of_imp hother]
    · split
      · next hkey =>
        have hother : child ∈ rest → child.1 ≠ key := fun hin =>
          hkey ▸ (String.ne_of_lt (hlater hin)).symm
        have hfirst : ¬ (child = first ∧ child.1 ≠ key) := fun h => h.2 (h.1 ▸ hkey.symm)
        rw [List.mem_cons, List.mem_cons, or_and_right, or_iff_right hfirst,
          and_iff_left_of_imp hother]
      · next hkey =>
        have hfirst : child = first → child.1 ≠ key := fun heq => heq ▸ Ne.symm hkey
        rw [List.mem_cons, ih h.2, List.mem_cons, or_and_right, and_iff_left_of_imp hfirst,
          or_left_comm]

/-- Merged are all of the second children, and those of the first whose names these do not have. -/
theorem mem_merge_iff {child : String × α} {second : Children α} (hsecond : second.keys.Nodup) :
    ∀ {first : Children α}, first.keys.Pairwise (· < ·) →
      (child ∈ merge first second ↔ child ∈ second ∨ child ∈ first ∧ child.1 ∉ second.keys) := by
  induction second with
  | nil => simp
  | cons other rest ih =>
    intro first hfirst
    rw [keys_cons, List.nodup_cons] at hsecond
    have hother : child = other → child.1 ∉ keys rest := fun heq => heq ▸ hsecond.1
    rw [merge_cons, ih hsecond.2 (sorted_put hfirst), mem_put_iff hfirst, or_and_right,
      and_iff_left_of_imp hother, List.mem_cons, keys_cons, List.mem_cons, not_or, and_assoc,
      or_left_comm, or_assoc]

end ProviderCode.Children
