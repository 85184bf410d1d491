/-!
# Children

The children of an object under their names, in the order of the names and each name once.
-/

namespace ProviderCode

/-- Named values in the order of their names. -/
abbrev Children (α : Type) := List (String × α)

namespace Children

variable {α : Type}

/-- The names in order. -/
def keys (children : Children α) : List String := children.map (·.1)

/-- The values in the order of their names. -/
def values (children : Children α) : List α := children.map (·.2)

def hasKey (children : Children α) (key : String) : Bool := children.any (·.1 == key)

/-- Puts a value under a name, in place of the one that may be there. -/
def put (key : String) (a : α) : Children α → Children α
  | [] => [(key, a)]
  | (k, b) :: rest =>
    if key < k then (key, a) :: (k, b) :: rest
    else if key = k then (key, a) :: rest
    else (k, b) :: put key a rest

/-- Drops a name. -/
def erase (children : Children α) (key : String) : Children α := children.filter (·.1 != key)

/-- The children of two objects in one order; of two with one name the second one counts. -/
def merge (first second : Children α) : Children α :=
  second.foldl (fun merged child => put child.1 child.2 merged) first

/-! ### Names -/

@[simp] theorem keys_nil : keys ([] : Children α) = [] := rfl

@[simp] theorem keys_cons (child : String × α) (rest : Children α) :
    keys (child :: rest) = child.1 :: keys rest := rfl

theorem hasKey_iff {children : Children α} {key : String} :
    children.hasKey key ↔ key ∈ children.keys := by
  simp [hasKey, keys]

theorem mem_keys_put {key name : String} {a : α} {children : Children α} :
    name ∈ keys (put key a children) ↔ name = key ∨ name ∈ keys children := by
  induction children with
  | nil => simp [put]
  | cons child rest ih =>
    simp only [put]
    split
    · simp
    · split
      · next h => simp [h]
      · simp only [keys_cons, List.mem_cons, ih]
        exact or_left_comm

/-- Putting a value keeps the order. -/
theorem sorted_put {key : String} {a : α} {children : Children α}
    (h : children.keys.Pairwise (· < ·)) : (keys (put key a children)).Pairwise (· < ·) := by
  induction children with
  | nil => simp [put]
  | cons child rest ih =>
    rw [keys_cons, List.pairwise_cons] at h
    simp only [put]
    split
    · next hk =>
      refine List.pairwise_cons.mpr ⟨fun name hn => ?_, List.pairwise_cons.mpr h⟩
      cases hn with
      | head => exact hk
      | tail _ hn => exact String.lt_trans hk (h.1 name hn)
    · next hk =>
      split
      · next hc => exact List.pairwise_cons.mpr ⟨hc ▸ h.1, h.2⟩
      · next hc =>
        refine List.pairwise_cons.mpr ⟨fun name hn => ?_, ih h.2⟩
        rcases mem_keys_put.mp hn with rfl | hn
        · have hle := String.not_lt.mp hk
          by_cases hlt : child.1 < name
          · exact hlt
          · exact absurd (String.le_antisymm (String.not_lt.mp hlt) hle) hc
        · exact h.1 name hn

end Children

end ProviderCode
