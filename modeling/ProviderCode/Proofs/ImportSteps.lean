import Mathlib.Data.List.Induction
import ProviderCode.Proofs.NodeImports
import ProviderCode.Proofs.Results

/-!
# Making import sets

An import set is made step by step: imports are added one by one, from lists and from other sets, and a
list can also start the set anew.  Whatever the steps, the set holds what has been supplied, each import
once and in order, and the order, grouping and repetition of what was supplied do not show.

Main statement: the members of a set are the imports that were supplied since it was last started, in the
order of their paths and names, and its declaration has an entry for each of them in that order.  An
entry is one line exactly if there is no line break in the import.
-/

namespace ProviderCode

/-! ### Steps -/

/-- One step in the making of an import set. -/
inductive ImportStep
  | insert (i : Import)
  | insertPath (path : String)
  | union (other : Imports)
  | insertAll (list : List Import)
  /-- Starts anew with the imports of a list. -/
  | ofList (list : List Import)

namespace ImportStep

/-- The set after a step. -/
def apply (imports : Imports) : ImportStep → Imports
  | .insert i => imports.insert i
  | .insertPath path => imports.insertPath path
  | .union other => imports ∪ other
  | .insertAll list => imports.insertAll list
  | .ofList list => .ofList list

/-- The imports that a step supplies. -/
def supplies : ImportStep → List Import
  | .insert i => [i]
  | .insertPath path => [{ path }]
  | .union other => other.toList
  | .insertAll list | .ofList list => list

/-- Whether a step drops what was there before it. -/
def startsAnew : ImportStep → Bool
  | .ofList _ => true
  | .insert _ | .insertPath _ | .union _ | .insertAll _ => false

/-- **One step.**  It adds what it supplies, and keeps all else unless it starts anew. -/
theorem mem_apply {imports : Imports} {step : ImportStep} {i : Import} :
    i ∈ step.apply imports ↔ i ∈ step.supplies ∨ step.startsAnew = false ∧ i ∈ imports := by
  cases step with
  | insert j => simp [apply, supplies, startsAnew]
  | insertPath path => simp [apply, supplies, startsAnew, Imports.insertPath]
  | union other => simp [apply, supplies, startsAnew, or_comm]
  | insertAll list => simp [apply, supplies, startsAnew, Imports.mem_insertAll, or_comm]
  | ofList list => simp [apply, supplies, startsAnew]

end ImportStep

/-- The set that steps make, starting with nothing. -/
def Imports.run (steps : List ImportStep) : Imports := steps.foldl ImportStep.apply ∅

/-- An import that some step supplies and no later one drops. -/
def Supplied (steps : List ImportStep) (i : Import) : Prop :=
  ∃ before step after, steps = before ++ step :: after ∧ i ∈ step.supplies ∧
    ∀ later ∈ after, later.startsAnew = false

theorem not_supplied_nil (i : Import) : ¬ Supplied [] i := by
  rintro ⟨before, step, after, hsteps, -⟩
  simp at hsteps

/-- What is supplied when there is one step more. -/
theorem supplied_concat {steps : List ImportStep} {step : ImportStep} {i : Import} :
    Supplied (steps ++ [step]) i ↔ i ∈ step.supplies ∨ step.startsAnew = false ∧ Supplied steps i := by
  constructor
  · rintro ⟨before, s, after, hsteps, hi, hkept⟩
    -- the step that supplies the import is the last one or an earlier one
    rcases List.eq_nil_or_concat after with rfl | ⟨after, last, rfl⟩
    · obtain ⟨-, hlast⟩ := List.append_inj' hsteps rfl
      cases hlast
      exact .inl hi
    · rw [List.concat_eq_append, List.forall_mem_append] at hkept
      rw [List.concat_eq_append, ← List.cons_append, ← List.append_assoc] at hsteps
      obtain ⟨hearlier, hlast⟩ := List.append_inj' hsteps rfl
      cases hlast
      exact .inr ⟨hkept.2 step List.mem_cons_self, before, s, after, hearlier, hi, hkept.1⟩
  · rintro (hi | ⟨hstep, before, s, after, rfl, hi, hkept⟩)
    · exact ⟨steps, step, [], rfl, hi, fun _ h => absurd h List.not_mem_nil⟩
    · refine ⟨before, s, after ++ [step], by simp, hi, fun later hlater => ?_⟩
      rcases List.mem_append.mp hlater with hlater | hlater
      · exact hkept later hlater
      · rwa [List.mem_singleton.mp hlater]

theorem Imports.run_concat (steps : List ImportStep) (step : ImportStep) :
    run (steps ++ [step]) = step.apply (run steps) := by
  simp [run, List.foldl_append]

/-- **All steps.**  The members of the set are the imports that were supplied. -/
theorem Imports.mem_run {steps : List ImportStep} {i : Import} : i ∈ run steps ↔ Supplied steps i := by
  induction steps using List.reverseRecOn with
  | nil => exact iff_of_false (not_mem_empty i) (not_supplied_nil i)
  | append_singleton steps step ih =>
    rw [run_concat, ImportStep.mem_apply, supplied_concat, ih]

/-! ### Order -/

/-- Paths come first, and imports of one path stand in the order of their names, none before any. -/
theorem Import.lt_iff_names {i j : Import} :
    i < j ↔ i.path < j.path ∨ i.path = j.path ∧ (i.localName = none ∧ j.localName ≠ none ∨
      ∃ name name', i.localName = some name ∧ j.localName = some name' ∧ name < name') := by
  rw [lt_iff]
  cases i.localName <;> cases j.localName <;> simp [LocalNameLt]

/-! ### Lines -/

/-- The pieces of a text between its line breaks. -/
def pieces (text : String) : List String := (text.toList.splitOn '\n').map String.ofList

/-- The lines of a text, each of them ended by a line break. -/
def lines (text : String) : List String := (pieces text).dropLast

theorem pieces_ne_nil (text : String) : pieces text ≠ [] := by
  rw [pieces, ne_eq, List.map_eq_nil_iff]
  exact List.splitOn_ne_nil _ _

theorem pieces_append (first rest : String) :
    pieces (first ++ "\n" ++ rest) = pieces first ++ pieces rest := by
  have htext : (first ++ "\n" ++ rest).toList = first.toList ++ '\n' :: rest.toList := by simp
  rw [pieces, htext, List.splitOn_append_cons_self, List.map_append]
  rfl

theorem lines_append (first rest : String) :
    lines (first ++ "\n" ++ rest) = pieces first ++ lines rest := by
  rw [lines, pieces_append, List.dropLast_append_of_ne_nil (pieces_ne_nil rest)]
  rfl

/-- A text is one piece exactly if there is no line break in it. -/
theorem pieces_eq_singleton_iff {text : String} : pieces text = [text] ↔ '\n' ∉ text.toList := by
  constructor
  · intro h hbreak
    obtain ⟨first, rest, htext⟩ := List.append_of_mem hbreak
    have happend : text = String.ofList first ++ "\n" ++ String.ofList rest := by
      rw [← String.toList_inj, htext]
      simp
    have hlength := congrArg List.length (happend ▸ h)
    have hfirst := List.length_pos_iff.mpr (pieces_ne_nil (String.ofList first))
    have hrest := List.length_pos_iff.mpr (pieces_ne_nil (String.ofList rest))
    rw [pieces_append, List.length_append, List.length_singleton] at hlength
    omega
  · intro h
    rw [pieces, List.splitOn_eq_singleton h, List.map_singleton, String.ofList_toList]

namespace Imports

/-- The entry of an import in a declaration: its name if it has one, and its path. -/
def entry (i : Import) : String :=
  "\t" ++ (i.localName.map (· ++ " ")).getD "" ++ "\"" ++ i.path ++ "\""

theorem line_eq_entry (i : Import) : line i = entry i ++ "\n" := by
  have hquote : "\"\n" = "\"" ++ "\n" := rfl
  rw [line, entry]
  cases i.localName with
  | none =>
    have hopening : "\t\"" = "\t" ++ "\"" := rfl
    simp only [hopening, hquote, Option.map_none, Option.getD_none, String.append_assoc,
      String.empty_append]
  | some name =>
    have hopening : " \"" = " " ++ "\"" := rfl
    simp only [hopening, hquote, Option.map_some, Option.getD_some, String.append_assoc]

end Imports

/-- There is no line break in the path and name of an import. -/
def Import.OnOneLine (i : Import) : Prop :=
  '\n' ∉ i.path.toList ∧ '\n' ∉ (i.localName.getD "").toList

instance : DecidablePred Import.OnOneLine := fun i =>
  inferInstanceAs (Decidable ('\n' ∉ i.path.toList ∧ '\n' ∉ (i.localName.getD "").toList))

theorem Import.onOneLine_iff {i : Import} : i.OnOneLine ↔ '\n' ∉ (Imports.entry i).toList := by
  rw [OnOneLine, Imports.entry]
  cases i.localName <;> simp [and_comm]

namespace Imports

/-- The lines of entries, each of them ended, and of the parenthesis after them. -/
theorem lines_entries (list : List Import) :
    lines (String.join (list.map line) ++ ")\n") = (list.flatMap fun i => pieces (entry i)) ++ [")"] := by
  induction list with
  | nil => rfl
  | cons i rest ih =>
    rw [List.map_cons, String.join_cons, String.append_assoc, line_eq_entry, lines_append, ih,
      List.flatMap_cons, List.append_assoc]

/-- The lines of a declaration: those of the entries between two parentheses. -/
theorem lines_declaration {imports : Imports} (h : imports.isEmpty = false) :
    lines imports.declaration =
      "import (" :: ((imports.toList.flatMap fun i => pieces (entry i)) ++ [")"]) := by
  have hopening : "import (\n" = "import (" ++ "\n" := rfl
  have hpieces : pieces "import (" = ["import ("] := by decide +kernel
  rw [declaration, h, if_neg Bool.false_ne_true, hopening, String.append_assoc, lines_append,
    lines_entries, hpieces]
  rfl

end Imports

/-! ### The theorem -/

/-- An import set that holds what is given, and shows it in order. -/
structure Imports.Collects (imports : Imports) (given : Import → Prop) : Prop where
  ordered : imports.toList.Pairwise fun i j =>
    i.path < j.path ∨ i.path = j.path ∧ (i.localName = none ∧ j.localName ≠ none ∨
      ∃ name name', i.localName = some name ∧ j.localName = some name' ∧ name < name')
  contains_iff : ∀ i, imports.contains i = true ↔ given i
  containsPath_iff : ∀ path, imports.containsPath path = true ↔ ∃ i, given i ∧ i.path = path
  declaration_empty_iff : imports.declaration = "" ↔ imports.isEmpty = true
  declaration_eq : imports.isEmpty = false → imports.declaration =
    "import (\n" ++ String.join (imports.toList.map fun i => entry i ++ "\n") ++ ")\n"
  lines_iff : imports.isEmpty = false →
    (lines imports.declaration = "import (" :: (imports.toList.map entry ++ [")"]) ↔
      ∀ i, given i → i.OnOneLine)

theorem Imports.collects_run (steps : List ImportStep) : (run steps).Collects (Supplied steps) where
  ordered := (run steps).sorted.imp fun h => Import.lt_iff_names.mp h
  contains_iff := fun i => by rw [← mem_run, contains, List.contains_iff_mem, mem_toList]
  containsPath_iff := fun path => by simp only [Imports.containsPath_iff, mem_run]
  declaration_empty_iff := by
    rw [declaration]
    split
    · next h => exact iff_of_true rfl h
    · next h => exact iff_of_false (by simp) h
  declaration_eq := fun h => by
    rw [declaration, h, if_neg Bool.false_ne_true, funext line_eq_entry]
  lines_iff := fun h => by
    rw [lines_declaration h, List.cons_inj_right, List.append_cancel_right_eq,
      flatMap_eq_map_iff fun i => pieces_ne_nil (entry i)]
    refine forall_congr' fun i => ?_
    rw [pieces_eq_singleton_iff, Import.onOneLine_iff, mem_toList, mem_run]

/-- **Import sets** hold the imports that were supplied since they were last started, in the order of
paths and names, and nothing else of the steps shows in them.  Their declaration has an entry for each of
their members in that order, which is one line for each exactly if no member has a line break. -/
theorem run_collects :
    (∀ steps : List ImportStep, (Imports.run steps).Collects (Supplied steps)) ∧
    ∀ steps steps' : List ImportStep, Imports.run steps = Imports.run steps' ↔
      ∀ i, Supplied steps i ↔ Supplied steps' i := by
  refine ⟨Imports.collects_run, fun steps steps' => ⟨fun h i => ?_, fun h => ?_⟩⟩
  · rw [← Imports.mem_run, h, Imports.mem_run]
  · refine Imports.ext_mem fun i => ?_
    rw [Imports.mem_run, Imports.mem_run, h i]

/-- A set that is started anew after its first import, and then gets imports that it has already. -/
def startedSteps : List ImportStep := [
  .insertPath "example.com/old",
  .ofList [{ path := "example.com/b", localName := some "x" }, { path := "example.com/b" }],
  .insertPath "example.com/a",
  .union (.ofList [{ path := "example.com/b" }, { path := "example.com/a", localName := some "x" }])]

/-- The import from before the start is gone, and all others are there once, one line each. -/
theorem run_collects_startedSteps :
    (Imports.run startedSteps).isEmpty = false ∧
    ¬ Supplied startedSteps { path := "example.com/old" } ∧
    (∀ i, Supplied startedSteps i → i.OnOneLine) ∧
    lines (Imports.run startedSteps).declaration = ["import (", "\t\"example.com/a\"",
      "\tx \"example.com/a\"", "\t\"example.com/b\"", "\tx \"example.com/b\"", ")"] := by
  have hcollects := run_collects.1 startedSteps
  have hlist : (Imports.run startedSteps).toList = [{ path := "example.com/a" },
      { path := "example.com/a", localName := some "x" }, { path := "example.com/b" },
      { path := "example.com/b", localName := some "x" }] := by decide +kernel
  have hsome : (Imports.run startedSteps).isEmpty = false := by rw [Imports.isEmpty, hlist]; rfl
  have hold : (Imports.run startedSteps).contains { path := "example.com/old" } = false := by
    rw [Imports.contains, hlist]
    decide
  have hlines : ∀ i, Supplied startedSteps i → i.OnOneLine := by
    intro i hi
    have hall : ∀ i ∈ (Imports.run startedSteps).toList, i.OnOneLine := by
      rw [hlist]
      decide
    exact hall i (List.contains_iff_mem.mp ((hcollects.contains_iff i).mpr hi))
  refine ⟨hsome, fun h => ?_, hlines, ?_⟩
  · rw [(hcollects.contains_iff _).mpr h] at hold
    cases hold
  · rw [(hcollects.lines_iff hsome).mpr hlines, hlist]
    decide +kernel

/-- A path that goes over two lines makes two lines of one import. -/
theorem path_over_two_lines :
    (Imports.run [.insertPath "example.com/a\nb"]).size = 1 ∧
    lines (Imports.run [.insertPath "example.com/a\nb"]).declaration =
      ["import (", "\t\"example.com/a", "b\"", ")"] := by
  decide +kernel

end ProviderCode
