import ProviderCode.Proofs.BuiltNode

/-!
# The first fault

All faults of a specification, in the order of its document: an attribute or block that lacks a
part, a child whose name an earlier sibling has.  A child's name comes before what is inside the
child, the attributes of an object before its blocks.

Main statement: building gives the node that the recursion gives if there are no faults, and the
first of them otherwise.
-/

namespace ProviderCode

/-! ### Faults in the order of the document -/

mutual

/-- All faults of an attribute and its descendants. -/
def Attribute.faults : Attribute → List GenerationError
  | .mk name (.leaf (.collection shape _ none)) =>
    [.missingPart name (NodeKind.collection shape).name "element_type"]
  | .mk name (.leaf (.object _ none)) => [.missingPart name NodeKind.object.name "attribute_types"]
  | .mk _ (.leaf _) => []
  | .mk name (.nested shape _ none) =>
    [.missingPart name (NestedKind.attributes shape).name "nested_object"]
  | .mk name (.nested _ _ (some ⟨_, attributes⟩)) | .mk name (.single _ _ attributes) =>
    attributeFaults name [] attributes
termination_by structural a => a

/-- The faults of the attributes of `owner`: of each one first that its name is taken. -/
def attributeFaults (owner : String) (earlier : List String) : List Attribute → List GenerationError
  | [] => []
  | a :: as =>
    (if a.name ∈ earlier then [.duplicateName a.name owner] else []) ++
      (a.faults ++ attributeFaults owner (a.name :: earlier) as)
termination_by structural as => as

end

mutual

/-- All faults of a block and its descendants, of its attributes before those of its blocks. -/
def Block.faults : Block → List GenerationError
  | .mk name (.nested shape _ none) =>
    [.missingPart name (NestedKind.blocks shape).name "nested_object"]
  | .mk name (.nested _ _ (some ⟨_, attributes, blocks⟩))
  | .mk name (.single _ _ attributes blocks) =>
    attributeFaults name [] attributes ++ blockFaults name (attributes.map Attribute.name) blocks
termination_by structural b => b

def blockFaults (owner : String) (earlier : List String) : List Block → List GenerationError
  | [] => []
  | b :: bs =>
    (if b.name ∈ earlier then [.duplicateName b.name owner] else []) ++
      (b.faults ++ blockFaults owner (b.name :: earlier) bs)
termination_by structural bs => bs

end

/-- A result that fits a list of faults: the first one is the error, and there is a value if there
are none. -/
def Generated.Reports {α : Type} : Generated α → List GenerationError → Prop
  | .ok _, faults => faults = []
  | .error e, faults => faults.head? = some e

namespace Generated.Reports

variable {α β : Type} {r : Generated α} {faults : List GenerationError}

theorem bind {f : α → Generated β} {rest : List GenerationError} (h : Reports r faults)
    (hf : ∀ a, r = .ok a → Reports (f a) rest) : Reports (r >>= f) (faults ++ rest) := by
  cases r with
  | error e =>
    show (faults ++ rest).head? = some e
    rw [List.head?_append, h]
    rfl
  | ok a =>
    rw [show faults = [] from h]
    exact hf a rfl

theorem map {f : α → β} (h : Reports r faults) : Reports (r >>= fun a => .ok (f a)) faults := by
  rw [← List.append_nil faults]
  exact h.bind fun _ _ => rfl

/-- The error is the first fault. -/
theorem error_iff (h : Reports r faults) {e : GenerationError} :
    r = .error e ↔ faults.head? = some e := by
  cases r with
  | error e' => rw [show faults.head? = some e' from h, Except.error.injEq, Option.some.injEq]
  | ok a => rw [show faults = [] from h]; simp

/-- There is a value if nothing is at fault. -/
theorem ok_iff (h : Reports r faults) : (∃ a, r = .ok a) ↔ faults = [] := by
  cases r with
  | error e =>
    refine ⟨fun ⟨_, ha⟩ => (nomatch ha), fun hnil => ?_⟩
    rw [hnil] at h
    cases h
  | ok a => exact ⟨fun _ => h, fun _ => ⟨a, rfl⟩⟩

end Generated.Reports

open Generated (Reports)

theorem Leaf.reports_build (name : String) : ∀ leaf : Leaf,
    Reports (leaf.build name) (Attribute.mk name (.leaf leaf)).faults
  | .bool _ | .float64 _ | .int64 _ | .number _ | .string _ => rfl
  | .collection _ _ (some _) | .object _ (some _) => rfl
  | .collection _ _ none | .object _ none => rfl

/-- A child with a name that is taken is at fault before anything in it is. -/
theorem Generated.Reports.child {α β : Type} {name owner : String} {earlier : List String}
    {r : Generated α} {f : α → Generated β} {faults rest : List GenerationError}
    (h : Reports r faults) (hf : ∀ a, r = .ok a → Reports (f a) rest) :
    Reports (if name ∈ earlier then .error (.duplicateName name owner) else r >>= f)
      ((if name ∈ earlier then [.duplicateName name owner] else []) ++ (faults ++ rest)) := by
  by_cases hin : name ∈ earlier
  · rw [if_pos hin, if_pos hin]
    rfl
  · rw [if_neg hin, if_neg hin, List.nil_append]
    exact h.bind hf

mutual

theorem Attribute.reports_construct : ∀ a : Attribute, Reports a.construct a.faults
  | .mk name (.leaf leaf) => leaf.reports_build name
  | .mk _ (.nested _ _ none) => rfl
  | .mk name (.nested _ _ (some ⟨_, attributes⟩)) => by
    rw [Attribute.construct, Attribute.faults]
    exact (reports_constructAttributes name [] attributes).map
  | .mk name (.single _ _ attributes) => by
    rw [Attribute.construct, Attribute.faults]
    exact (reports_constructAttributes name [] attributes).map

theorem reports_constructAttributes (owner : String) (earlier : List String) :
    ∀ as : List Attribute,
      Reports (constructAttributes owner earlier as) (attributeFaults owner earlier as)
  | [] => rfl
  | a :: as => by
    rw [constructAttributes, attributeFaults]
    exact Reports.child a.reports_construct fun node _ =>
      (reports_constructAttributes owner (a.name :: earlier) as).map

end

mutual

theorem Block.reports_construct : ∀ b : Block, Reports b.construct b.faults
  | .mk _ (.nested _ _ none) => rfl
  | .mk name (.nested _ _ (some ⟨_, attributes, blocks⟩)) => by
    rw [Block.construct, Block.faults]
    exact (reports_constructAttributes name [] attributes).bind fun as _ =>
      (reports_constructBlocks name (attributes.map Attribute.name) blocks).map
  | .mk name (.single _ _ attributes blocks) => by
    rw [Block.construct, Block.faults]
    exact (reports_constructAttributes name [] attributes).bind fun as _ =>
      (reports_constructBlocks name (attributes.map Attribute.name) blocks).map

theorem reports_constructBlocks (owner : String) (earlier : List String) :
    ∀ bs : List Block, Reports (constructBlocks owner earlier bs) (blockFaults owner earlier bs)
  | [] => rfl
  | b :: bs => by
    rw [constructBlocks, blockFaults]
    exact Reports.child b.reports_construct fun node _ =>
      (reports_constructBlocks owner (b.name :: earlier) bs).map

end

/-! ### Building -/

/-- **Building is construction by recursion.**  The stack of waiting objects gives exactly the
result of the recursion.  There is a node if nothing is at fault, and the error is the first fault
otherwise.  The children of a node are those that are declared for it and no others. -/
theorem build_eq_construct :
    (∀ a : Attribute, a.build = a.construct ∧
      ((∃ node, a.build = .ok node) ↔ a.faults = []) ∧
      (∀ e, a.build = .error e ↔ a.faults.head? = some e) ∧
      ∀ node object, a.build = .ok node → node.object? = some object →
        object.MadeOf a.attributes []) ∧
    ∀ b : Block, b.build = b.construct ∧
      ((∃ node, b.build = .ok node) ↔ b.faults = []) ∧
      (∀ e, b.build = .error e ↔ b.faults.head? = some e) ∧
      ∀ node object, b.build = .ok node → node.object? = some object →
        object.MadeOf b.attributes b.blocks := by
  constructor
  · intro a
    have h : Reports a.build a.faults := by rw [a.build_eq]; exact a.reports_construct
    exact ⟨a.build_eq, h.ok_iff, fun _ => h.error_iff,
      fun _ object h => (a.builtFor_build h).object_madeOf object⟩
  · intro b
    have h : Reports b.build b.faults := by rw [b.build_eq]; exact b.reports_construct
    exact ⟨b.build_eq, h.ok_iff, fun _ => h.error_iff,
      fun _ object h => (b.builtFor_build h).object_madeOf object⟩

/-- The objects of the nodes that `ruleAttribute` and `ruleBlock` give hold their own children. -/
theorem build_eq_construct_ruleBlock :
    (∃ node object, ruleAttribute.build = .ok node ∧ node.object? = some object ∧
      object.MadeOf ruleAttribute.attributes []) ∧
    ∃ node object, ruleBlock.build = .ok node ∧ node.object? = some object ∧
      object.MadeOf ruleBlock.attributes ruleBlock.blocks := by
  have hattribute : ruleAttribute.build = .ok _ := ruleAttribute.build_eq.trans rfl
  have hblock : ruleBlock.build = .ok _ := ruleBlock.build_eq.trans rfl
  exact ⟨⟨_, _, hattribute, rfl, (build_eq_construct.1 ruleAttribute).2.2.2 _ _ hattribute rfl⟩,
    ⟨_, _, hblock, rfl, (build_eq_construct.2 ruleBlock).2.2.2 _ _ hblock rfl⟩⟩

/-- A name that is taken comes before the part that the child lacks, and both before the block. -/
example : (Block.mk "rule" (.single {} none
      [.mk "a" (.leaf (.bool { mode := .optional })),
        .mk "a" (.leaf (.collection .list { mode := .optional } none))]
      [.mk "c" (.nested .set {} none)])).faults =
    [.duplicateName "a" "rule", .missingPart "a" "list" "element_type",
      .missingPart "c" "set_nested_block" "nested_object"] := by
  decide

end ProviderCode
