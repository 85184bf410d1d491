import ProviderCode.Proofs.RecordFields

/-!
# Order of members

Documents that differ in the order of the members of their objects only, and the objects of a document
that are named values. A named value can be given several kinds, of which the first one counts: order
matters there, and nowhere else.
-/

namespace ProviderCode

open Json (Ending Fault Tree)
open List (Forall₂)

variable {ε α β : Type}

/-! ### Results that agree -/

/-- Whether two results are one value, or both are errors. -/
def Agree (x y : Except ε α) : Prop := ∀ a, x = .ok a ↔ y = .ok a

namespace Agree

variable {x y : Except ε α}

theorem refl (x : Except ε α) : Agree x x := fun _ => Iff.rfl

theorem of_errors (hx : ∀ a, x ≠ .ok a) (hy : ∀ a, y ≠ .ok a) : Agree x y := fun a =>
  iff_of_false (hx a) (hy a)

theorem bind {f g : α → Except ε β} (h : Agree x y) (hf : ∀ a, Agree (f a) (g a)) :
    Agree (x >>= f) (y >>= g) := fun b => by
  rw [bind_eq_ok, bind_eq_ok]
  exact exists_congr fun a => and_congr (h a) (hf a b)

theorem map (h : Agree x y) (f : α → β) : Agree (f <$> x) (f <$> y) := fun b => by
  rw [map_eq_ok, map_eq_ok]
  exact exists_congr fun a => and_congr_left fun _ => h a

theorem mapM {f : α → Except ε β} {as as' : List α}
    (h : Forall₂ (fun a a' => Agree (f a) (f a')) as as') : Agree (as.mapM f) (as'.mapM f) := by
  induction h with
  | nil => exact refl _
  | cons ha _ ih =>
    rw [List.mapM_cons, List.mapM_cons]
    exact ha.bind fun _ => ih.bind fun _ => refl _

end Agree

/-- What holds of all members of one of two lists side by side holds of all members of the other. -/
theorem forall_mem_iff_of_forall₂ {p : α → Prop} {q : β → Prop} {as : List α} {bs : List β}
    (h : Forall₂ (fun a b => p a ↔ q b) as bs) : (∀ a ∈ as, p a) ↔ ∀ b ∈ bs, q b := by
  induction h with
  | nil => exact iff_of_true (fun _ h => absurd h List.not_mem_nil) fun _ h => absurd h List.not_mem_nil
  | cons hab _ ih => rw [List.forall_mem_cons, List.forall_mem_cons, hab, ih]

/-! ### Trees in another order -/

namespace Json

/-- What holds of every tree if it holds of a container whenever it holds of the values inside it. -/
theorem Tree.induction {p : Tree → Prop} (single : ∀ tree : Tree, tree.isContainer = false → p tree)
    (array : ∀ items ending, (∀ item ∈ items, p item) → p (.array items ending))
    (object : ∀ members ending, (∀ member ∈ members, p member.2) → p (.object members ending))
    (tree : Tree) : p tree :=
  @Tree.rec p (∀ item ∈ ·, p item) (∀ member ∈ ·, p member.2) (p ·.2)
    (single _ rfl) (fun _ => single _ rfl) (fun _ => single _ rfl) (fun _ => single _ rfl)
    array object (fun _ _ _ => single _ rfl)
    (fun _ h => absurd h List.not_mem_nil) (fun _ _ h hs => List.forall_mem_cons.mpr ⟨h, hs⟩)
    (fun _ h => absurd h List.not_mem_nil) (fun _ _ h hs => List.forall_mem_cons.mpr ⟨h, hs⟩)
    (fun _ _ h => h) tree

/-- Whether two members have one key, and values that are related. -/
inductive UnderKey (r : Tree → Tree → Prop) : Option String × Tree → Option String × Tree → Prop
  | mk (key : Option String) {tree tree' : Tree} (h : r tree tree') :
    UnderKey r (key, tree) (key, tree')

/-- Whether the second tree is the first one with the members of its objects, at any depth, in some
other order. Arrays keep the order of their items. -/
inductive Tree.Reordered : Tree → Tree → Prop
  | same (tree : Tree) : Reordered tree tree
  | array {items items' : List Tree} {ending : Ending} (h : Forall₂ Reordered items items') :
    Reordered (.array items ending) (.array items' ending)
  | object {members moved members' : List (Option String × Tree)} {ending : Ending}
    (h : Forall₂ (UnderKey Reordered) members moved) (hperm : moved.Perm members') :
    Reordered (.object members ending) (.object members' ending)

namespace Tree.Reordered

variable {tree tree' : Tree}

theorem of_array {items : List Tree} {ending : Ending}
    (h : Reordered (.array items ending) tree') :
    ∃ items', tree' = .array items' ending ∧ Forall₂ Reordered items items' := by
  cases h with
  | same => exact ⟨items, rfl, List.forall₂_same.mpr fun item _ => .same item⟩
  | array h => exact ⟨_, rfl, h⟩

theorem of_object {members : List (Option String × Tree)} {ending : Ending}
    (h : Reordered (.object members ending) tree') :
    ∃ moved members', tree' = .object members' ending ∧
      Forall₂ (UnderKey Reordered) members moved ∧ moved.Perm members' := by
  cases h with
  | same =>
    refine ⟨members, members, rfl, List.forall₂_same.mpr fun member _ => ?_, .refl members⟩
    exact .mk member.1 (.same member.2)
  | object h hperm => exact ⟨_, _, rfl, h, hperm⟩

/-- What is not a container has no members to reorder. -/
theorem of_single (h : tree.Reordered tree') (hsingle : tree.isContainer = false) : tree' = tree := by
  cases h with
  | same => rfl
  | array => cases hsingle
  | object => cases hsingle

theorem isContainer_eq (h : tree.Reordered tree') : tree'.isContainer = tree.isContainer := by
  cases h with
  | same => rfl
  | array => rfl
  | object => rfl

end Tree.Reordered

/-! ### Faults in another order -/

theorem skipItemsFault?_eq_none : ∀ {items : List Tree},
    skipItemsFault? items = none ↔ ∀ item ∈ items, item.skipFault? = none
  | [] => iff_of_true rfl fun _ h => absurd h List.not_mem_nil
  | item :: items => by
    rw [skipItemsFault?, Option.or_eq_none_iff, List.forall_mem_cons, skipItemsFault?_eq_none]

theorem skipMembersFault?_eq_none : ∀ {members : List (Option String × Tree)},
    skipMembersFault? members = none ↔ ∀ member ∈ members, member.2.skipFault? = none
  | [] => iff_of_true rfl fun _ h => absurd h List.not_mem_nil
  | (_, _) :: members => by
    rw [skipMembersFault?, Option.or_eq_none_iff, List.forall_mem_cons, skipMembersFault?_eq_none]

theorem readItemsFault?_eq_none {room : Nat} : ∀ {items : List Tree},
    readItemsFault? items room = none ↔ ∀ item ∈ items, item.readFault? room = none
  | [] => iff_of_true rfl fun _ h => absurd h List.not_mem_nil
  | item :: items => by
    rw [readItemsFault?, Option.or_eq_none_iff, List.forall_mem_cons, readItemsFault?_eq_none]

theorem readMembersFault?_eq_none {room : Nat} : ∀ {members : List (Option String × Tree)},
    readMembersFault? members room = none ↔
      ∀ member ∈ members, member.1.isSome ∧ member.2.readFault? room = none
  | [] => iff_of_true rfl fun _ h => absurd h List.not_mem_nil
  | (none, _) :: _ => iff_of_false nofun fun h => nomatch (List.forall_mem_cons.mp h).1.1
  | (some _, _) :: members => by
    rw [readMembersFault?, Option.or_eq_none_iff, List.forall_mem_cons, readMembersFault?_eq_none]
    simp only [Option.isSome_some, true_and]

namespace Tree.Reordered

/-- Whether passing over a tree meets a fault does not depend on the order. -/
theorem skipFault?_eq_none_iff {tree tree' : Tree} (h : tree.Reordered tree') :
    tree.skipFault? = none ↔ tree'.skipFault? = none := by
  induction tree using Tree.induction generalizing tree' with
  | single tree hsingle => rw [h.of_single hsingle]
  | array items ending ih =>
    obtain ⟨items', rfl, hitems⟩ := h.of_array
    have hall := forall_mem_iff_of_forall₂ (forall₂_imp_of_mem hitems fun item _ hmem => ih item hmem)
    rw [Tree.skipFault?, Tree.skipFault?, Option.or_eq_none_iff, Option.or_eq_none_iff,
      skipItemsFault?_eq_none, skipItemsFault?_eq_none, hall]
  | object members ending ih =>
    obtain ⟨moved, members', rfl, hmembers, hperm⟩ := h.of_object
    have hmoved : Forall₂ (fun m m' => m.2.skipFault? = none ↔ m'.2.skipFault? = none) members moved :=
      forall₂_imp_of_mem hmembers fun _ _ hmem hkey => by
        cases hkey with
        | mk key htree => exact ih _ hmem htree
    have hall := (forall_mem_iff_of_forall₂ hmoved).trans
      (forall_congr' fun member => imp_congr_left hperm.mem_iff)
    rw [Tree.skipFault?, Tree.skipFault?, Option.or_eq_none_iff, Option.or_eq_none_iff,
      skipMembersFault?_eq_none, skipMembersFault?_eq_none, hall]

/-- Whether reading a tree whole meets a fault does not depend on the order. -/
theorem readFault?_eq_none_iff {tree tree' : Tree} (h : tree.Reordered tree') (room : Nat) :
    tree.readFault? room = none ↔ tree'.readFault? room = none := by
  induction tree using Tree.induction generalizing tree' room with
  | single tree hsingle => rw [h.of_single hsingle]
  | array items ending ih =>
    obtain ⟨items', rfl, hitems⟩ := h.of_array
    cases room with
    | zero => exact Iff.rfl
    | succ room =>
      have hall := forall_mem_iff_of_forall₂
        (forall₂_imp_of_mem hitems fun item _ hmem hitem => ih item hmem hitem room)
      rw [Tree.readFault?, Tree.readFault?, Option.or_eq_none_iff, Option.or_eq_none_iff,
        readItemsFault?_eq_none, readItemsFault?_eq_none, hall]
  | object members ending ih =>
    obtain ⟨moved, members', rfl, hmembers, hperm⟩ := h.of_object
    cases room with
    | zero => exact Iff.rfl
    | succ room =>
      have hmoved : Forall₂ (fun m m' => (m.1.isSome ∧ m.2.readFault? room = none) ↔
          (m'.1.isSome ∧ m'.2.readFault? room = none)) members moved :=
        forall₂_imp_of_mem hmembers fun _ _ hmem hkey => by
          cases hkey with
          | mk key htree => exact and_congr_right fun _ => ih _ hmem htree room
      have hall := (forall_mem_iff_of_forall₂ hmoved).trans
        (forall_congr' fun member => imp_congr_left hperm.mem_iff)
      rw [Tree.readFault?, Tree.readFault?, Option.or_eq_none_iff, Option.or_eq_none_iff,
        readMembersFault?_eq_none, readMembersFault?_eq_none, hall]

end Tree.Reordered

end Json

/-! ### Named values of a document -/

/-- The positions of a document that hold named values, or parts that do. What stands anywhere else is
`other`. -/
inductive Position
  | specification
  | resources
  | resource
  | schema
  | attributes
  | namedAttribute
  | collectionAttribute
  | objectAttribute
  | nestedAttribute
  | attributeObject
  | singleAttribute
  | blocks
  | namedBlock
  | nestedBlock
  | blockObject
  | singleBlock
  | elementType
  | collectionElement
  | objectElement
  | memberTypes
  | memberType
  | other
deriving DecidableEq, Repr

namespace Position

/-- The members of an object that hold named values. -/
def parts : Position → List (String × Position)
  | specification => [("resources", resources)]
  | resource => [("schema", schema)]
  | schema | blockObject | singleBlock => [("attributes", attributes), ("blocks", blocks)]
  | namedAttribute => [("list", collectionAttribute), ("map", collectionAttribute),
    ("set", collectionAttribute), ("object", objectAttribute), ("list_nested", nestedAttribute),
    ("map_nested", nestedAttribute), ("set_nested", nestedAttribute),
    ("single_nested", singleAttribute)]
  | collectionAttribute | collectionElement => [("element_type", elementType)]
  | objectAttribute | objectElement => [("attribute_types", memberTypes)]
  | nestedAttribute => [("nested_object", attributeObject)]
  | attributeObject | singleAttribute => [("attributes", attributes)]
  | namedBlock => [("list_nested", nestedBlock), ("set_nested", nestedBlock),
    ("single_nested", singleBlock)]
  | nestedBlock => [("nested_object", blockObject)]
  | elementType | memberType => [("list", collectionElement), ("map", collectionElement),
    ("set", collectionElement), ("object", objectElement)]
  | resources | attributes | blocks | memberTypes | other => []

/-- The position of the member under a key. -/
def member (p : Position) (key : String) : Position := (p.parts.lookup key).getD other

/-- The fields of the record at a position, which an array gives in this order. -/
def keys : Position → List String
  | specification => Specification.record.fields.map (·.key)
  | resource => Resource.record.fields.map (·.key)
  | schema => Schema.record.fields.map (·.key)
  | collectionAttribute => Leaf.collectionRecord.fields.map (·.key)
  | objectAttribute => Leaf.objectRecord.fields.map (·.key)
  | nestedAttribute => (AttributeKind.nestedRecord Format.value).fields.map (·.key)
  | attributeObject => (AttributeObject.record Format.value).fields.map (·.key)
  | singleAttribute => (AttributeKind.singleRecord Format.value).fields.map (·.key)
  | nestedBlock => (BlockKind.nestedRecord Format.value Format.value).fields.map (·.key)
  | blockObject => (BlockObject.record Format.value Format.value).fields.map (·.key)
  | singleBlock => (BlockKind.singleRecord Format.value Format.value).fields.map (·.key)
  | collectionElement => (ElementType.collectionRecord ElementType.format).fields.map (·.key)
  | objectElement => (ElementType.objectRecord Format.value).fields.map (·.key)
  | resources | attributes | namedAttribute | blocks | namedBlock | elementType | memberTypes
  | memberType | other => []

/-- The position of an item of an array, which is a list or gives the fields of a record. -/
def item : Position → Nat → Position
  | resources, _ => resource
  | attributes, _ => namedAttribute
  | blocks, _ => namedBlock
  | memberTypes, _ => memberType
  | p, i => (p.keys[i]?.map p.member).getD other

/-- The names of the kinds of a named value. -/
def kinds : Position → List String
  | namedAttribute => AttributeKind.names
  | namedBlock => BlockKind.names
  | memberType => ElementType.names
  | _ => []

theorem item_eq {p : Position} {fields : List String}
    (hp : ∀ i, p.item i = (fields[i]?.map p.member).getD other) {i : Nat} {key : String}
    (hkey : fields[i]? = some key) : p.item i = p.member key := by
  rw [hp, hkey]
  rfl

theorem item_other (fields : List String) (i : Nat) :
    item other i = (fields[i]?.map (member other)).getD other := by
  cases fields[i]? <;> rfl

end Position

mutual

/-- Whether no named value inside a tree at a position is given more than one kind. -/
def Json.Tree.OneKind : Tree → Position → Prop
  | .array items _, p => itemsOneKind items p.item
  | .object members _, p => (kindKeys p.kinds members).length ≤ 1 ∧ membersOneKind members p
  | _, _ => True
termination_by structural tree => tree

def itemsOneKind : List Tree → (Nat → Position) → Prop
  | [], _ => True
  | item :: items, position => item.OneKind (position 0) ∧ itemsOneKind items fun i => position (i + 1)
termination_by structural items => items

def membersOneKind : List (Option String × Tree) → Position → Prop
  | [], _ => True
  | (key, tree) :: members, p =>
    tree.OneKind ((key.map p.member).getD .other) ∧ membersOneKind members p
termination_by structural members => members

end

mutual

/-- Whether named values have one kind can be decided. -/
def Json.Tree.decideOneKind : (tree : Tree) → (p : Position) → Decidable (tree.OneKind p)
  | .array items _, p => decideItemsOneKind items p.item
  | .object members _, p =>
    have := decideMembersOneKind members p
    inferInstanceAs (Decidable ((kindKeys p.kinds members).length ≤ 1 ∧ membersOneKind members p))
  | .null, _ | .bool _, _ | .number _, _ | .string _, _ | .broken _ _ _, _ => isTrue trivial
termination_by structural tree => tree

def decideItemsOneKind : (items : List Tree) → (position : Nat → Position) →
    Decidable (itemsOneKind items position)
  | [], _ => isTrue trivial
  | item :: items, position =>
    have := item.decideOneKind (position 0)
    have := decideItemsOneKind items fun i => position (i + 1)
    inferInstanceAs (Decidable
      (item.OneKind (position 0) ∧ itemsOneKind items fun i => position (i + 1)))
termination_by structural items => items

def decideMembersOneKind : (members : List (Option String × Tree)) → (p : Position) →
    Decidable (membersOneKind members p)
  | [], _ => isTrue trivial
  | (key, tree) :: members, p =>
    have := tree.decideOneKind ((key.map p.member).getD .other)
    have := decideMembersOneKind members p
    inferInstanceAs (Decidable
      (tree.OneKind ((key.map p.member).getD .other) ∧ membersOneKind members p))
termination_by structural members => members

end

instance (tree : Tree) (p : Position) : Decidable (tree.OneKind p) := tree.decideOneKind p

theorem membersOneKind_iff {p : Position} : ∀ {members : List (Option String × Tree)},
    membersOneKind members p ↔
      ∀ member ∈ members, member.2.OneKind ((member.1.map p.member).getD .other)
  | [] => iff_of_true trivial fun _ h => absurd h List.not_mem_nil
  | (_, _) :: members => by rw [membersOneKind, List.forall_mem_cons, membersOneKind_iff]

/-- The items of a list stand at one position. -/
theorem itemsOneKind_iff {p : Position} : ∀ {items : List Tree},
    itemsOneKind items (fun _ => p) ↔ ∀ item ∈ items, item.OneKind p
  | [] => iff_of_true trivial fun _ h => absurd h List.not_mem_nil
  | _ :: items => by rw [itemsOneKind, List.forall_mem_cons, itemsOneKind_iff]

/-- Elsewhere there are no named values. -/
theorem Json.Tree.oneKind_other (tree : Tree) : tree.OneKind .other := by
  induction tree using Tree.induction with
  | single tree hsingle =>
    cases tree with
    | array => cases hsingle
    | object => cases hsingle
    | _ => trivial
  | array items ending ih => exact itemsOneKind_iff.mpr ih
  | object members ending ih =>
    have hkinds : kindKeys Position.other.kinds members = [] :=
      List.filter_eq_nil_iff.mpr fun _ _ h => nomatch h
    refine ⟨hkinds ▸ Nat.zero_le 1, membersOneKind_iff.mpr fun member hmember => ?_⟩
    cases hkey : member.1 <;> exact ih member hmember

end ProviderCode
