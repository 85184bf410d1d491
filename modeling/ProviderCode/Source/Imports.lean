import ProviderCode.Source.Import
import ProviderCode.Source.Package

/-!
# Import sets

The imports of a generated file, in order and without repetition.
-/

namespace ProviderCode

structure Imports where
  toList : List Import
  sorted : toList.Pairwise (· < ·)

namespace Imports

/-- Puts an import in its place, unless it is there already. -/
def place (i : Import) : List Import → List Import
  | [] => [i]
  | j :: js => if i < j then i :: j :: js else if i = j then j :: js else j :: place i js

theorem mem_place {i j : Import} {js : List Import} : j ∈ place i js ↔ j = i ∨ j ∈ js := by
  induction js with
  | nil => simp [place]
  | cons k js ih =>
    simp only [place]
    split
    · simp
    · split
      · next h => subst h; simp
      · simp only [List.mem_cons, ih]
        exact or_left_comm

theorem sorted_place (i : Import) {js : List Import} (h : js.Pairwise (· < ·)) :
    (place i js).Pairwise (· < ·) := by
  induction js with
  | nil => simp [place]
  | cons k js ih =>
    rw [List.pairwise_cons] at h
    simp only [place]
    split
    · next hi =>
      refine List.pairwise_cons.mpr ⟨fun j hj => ?_, List.pairwise_cons.mpr h⟩
      cases hj with
      | head => exact hi
      | tail _ hj => exact Import.lt_trans hi (h.1 j hj)
    · next hi =>
      split
      · exact List.pairwise_cons.mpr h
      · next hne =>
        refine List.pairwise_cons.mpr ⟨fun j hj => ?_, ih h.2⟩
        rcases mem_place.mp hj with rfl | hj
        · exact Import.lt_of_not_lt hi hne
        · exact h.1 j hj

instance : Membership Import Imports := ⟨fun imports i => i ∈ imports.toList⟩

def empty : Imports := ⟨[], List.Pairwise.nil⟩

instance : EmptyCollection Imports := ⟨empty⟩

instance : DecidableEq Imports := fun a b =>
  decidable_of_iff (a.toList = b.toList)
    ⟨fun h => by cases a; cases b; cases h; rfl, fun h => h ▸ rfl⟩

def insert (imports : Imports) (i : Import) : Imports :=
  ⟨place i imports.toList, sorted_place i imports.sorted⟩

/-- Imports a package under its own name. -/
def insertPath (imports : Imports) (path : String) : Imports := imports.insert { path }

def insertPackage (imports : Imports) (package : Package) : Imports :=
  imports.insertPath package.path

/-- Adds the imports of a list. -/
def insertAll (imports : Imports) (list : List Import) : Imports := list.foldl insert imports

def union (a b : Imports) : Imports := a.insertAll b.toList

instance : Union Imports := ⟨union⟩

def ofList (list : List Import) : Imports := empty.insertAll list

/-- The import of an optional part, if it names a package. -/
def ofOption (i : Option Import) : Imports := ofList (i.filter Import.hasPath).toList

def size (imports : Imports) : Nat := imports.toList.length

def isEmpty (imports : Imports) : Bool := imports.toList.isEmpty

def contains (imports : Imports) (i : Import) : Bool := imports.toList.contains i

/-- Whether a package is imported under whatever name. -/
def containsPath (imports : Imports) (path : String) : Bool :=
  imports.toList.any fun i => i.path = path

/-- One line of an import declaration. -/
def line (i : Import) : String :=
  match i.localName with
  | some name => "\t" ++ name ++ " \"" ++ i.path ++ "\"\n"
  | none => "\t\"" ++ i.path ++ "\"\n"

/-- The import declaration of a file; nothing if there are no imports. -/
def declaration (imports : Imports) : String :=
  if imports.isEmpty then ""
  else "import (\n" ++ String.join (imports.toList.map line) ++ ")\n"

/-! ### Membership -/

@[simp] theorem mem_toList {imports : Imports} {i : Import} : i ∈ imports.toList ↔ i ∈ imports :=
  Iff.rfl

@[simp] theorem not_mem_empty (i : Import) : i ∉ (∅ : Imports) := List.not_mem_nil

@[simp] theorem mem_insert {imports : Imports} {i j : Import} :
    j ∈ imports.insert i ↔ j = i ∨ j ∈ imports := mem_place

theorem mem_insertAll {imports : Imports} {list : List Import} {i : Import} :
    i ∈ imports.insertAll list ↔ i ∈ imports ∨ i ∈ list := by
  induction list generalizing imports with
  | nil => simp [insertAll]
  | cons j list ih =>
    have step : imports.insertAll (j :: list) = (imports.insert j).insertAll list := rfl
    rw [step, ih, mem_insert, List.mem_cons, or_assoc, or_left_comm]

@[simp] theorem mem_union {a b : Imports} {i : Import} : i ∈ a ∪ b ↔ i ∈ a ∨ i ∈ b :=
  mem_insertAll

@[simp] theorem mem_ofList {list : List Import} {i : Import} : i ∈ ofList list ↔ i ∈ list := by
  simp [ofList, mem_insertAll, show empty = (∅ : Imports) from rfl]

/-- Two lists in strict order are the same if they have the same members. -/
theorem eq_of_sorted {as bs : List Import} (ha : as.Pairwise (· < ·)) (hb : bs.Pairwise (· < ·))
    (h : ∀ i, i ∈ as ↔ i ∈ bs) : as = bs := by
  induction as generalizing bs with
  | nil =>
    cases bs with
    | nil => rfl
    | cons b bs => exact absurd ((h b).mpr List.mem_cons_self) List.not_mem_nil
  | cons a as ih =>
    cases bs with
    | nil => exact absurd ((h a).mp List.mem_cons_self) List.not_mem_nil
    | cons b bs =>
      rw [List.pairwise_cons] at ha hb
      have hab : a = b := by
        rcases List.mem_cons.mp ((h a).mp List.mem_cons_self) with hab | hab
        · exact hab
        · rcases List.mem_cons.mp ((h b).mpr List.mem_cons_self) with hba | hba
          · exact hba.symm
          · exact absurd (Import.lt_trans (hb.1 a hab) (ha.1 b hba)) (Import.lt_irrefl b)
      subst hab
      refine congrArg (a :: ·) (ih ha.2 hb.2 fun i => ⟨fun hi => ?_, fun hi => ?_⟩)
      · rcases List.mem_cons.mp ((h i).mp (List.mem_cons_of_mem a hi)) with rfl | hi'
        · exact absurd (ha.1 i hi) (Import.lt_irrefl i)
        · exact hi'
      · rcases List.mem_cons.mp ((h i).mpr (List.mem_cons_of_mem a hi)) with rfl | hi'
        · exact absurd (hb.1 i hi) (Import.lt_irrefl i)
        · exact hi'

/-- Import sets are the same if they have the same members. -/
theorem ext_mem {a b : Imports} (h : ∀ i, i ∈ a ↔ i ∈ b) : a = b := by
  cases a with
  | mk as ha =>
    cases b with
    | mk bs hb =>
      obtain rfl := eq_of_sorted ha hb h
      rfl

end Imports

end ProviderCode
