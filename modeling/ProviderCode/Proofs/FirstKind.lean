import ProviderCode.Proofs.Results
import ProviderCode.Proofs.JsonTrees
import ProviderCode.Specification.AttributeFormat

/-!
# The kind of a named value

Attributes, blocks and the attributes of object types are a name plus a kind, and the key of the kind
is one of the keys of an object. A document may give several kinds for one name: the first one in the
text is the kind that is read, and the others count as little as keys that are not known.
-/

namespace ProviderCode

open Json (Document Ending Fault Tree Value)

variable {α κ : Type}

/-- The keys that name a kind, in the order of the text. -/
def kindKeys (names : List String) (members : Members) : List String :=
  (members.filterMap (·.1)).filter names.contains

/-- The members that do not name a kind. -/
def dropKinds (names : List String) (members : Members) : Members :=
  members.filter fun member => !member.1.any names.contains

/-! ### Success -/

theorem unlessFault_eq_ok {fault : Option Fault} {u : Unit} :
    unlessFault fault = .ok u ↔ fault = none := by
  cases fault with
  | none => exact iff_of_true rfl rfl
  | some fault => exact iff_of_false nofun nofun

theorem Json.Ending.readFault?_eq_none {ending : Ending} :
    ending.readFault? = none ↔ ending = .closed := by
  refine ⟨fun h => ?_, fun h => h ▸ rfl⟩
  unfold Ending.readFault? at h
  split at h
  · rfl
  all_goals cases h

theorem Format.string_read_eq_ok {s : Setting} {tree : Tree} {text : String} :
    Format.string.read s tree = .ok text ↔ tree = .string (some text) := by
  refine ⟨fun h => ?_, fun h => h ▸ rfl⟩
  cases tree with
  | string found =>
    cases found with
    | none => cases h
    | some text => rw [Except.ok.inj h]
  | _ => cases h

/-! ### Members of a tagged record -/

namespace Tagged

variable {alternative? : String → Option (Reader κ)} {s : Setting} {members : Members}

/-- Whether a member can be passed while the name is looked for: it has a key, and what stands under
another key than the name can be kept whole. -/
def Passes (s : Setting) (member : Option String × Tree) : Prop :=
  member.1.isSome ∧ (member.1 ≠ some "name" → s.kept ∨ member.2.readFault? s.room = none)

/-- What stands under the name, as often as it is given. -/
def nameTrees (members : Members) : List Tree :=
  (members.filter (·.1 == some "name")).map (·.2)

@[simp] theorem nameTrees_append (before after : Members) :
    nameTrees (before ++ after) = nameTrees before ++ nameTrees after := by
  rw [nameTrees, List.filter_append, List.map_append]
  rfl

theorem nameTrees_cons (member : Option String × Tree) (members : Members) :
    nameTrees (member :: members) = nameTrees [member] ++ nameTrees members :=
  nameTrees_append [member] members

/-- The kinds can go without the name, as it is not one of theirs. -/
theorem nameTrees_dropKinds {names : List String} (h : "name" ∉ names) (members : Members) :
    nameTrees (dropKinds names members) = nameTrees members := by
  rw [nameTrees, dropKinds, List.filter_filter]
  refine congrArg (List.map _) (List.filter_congr fun member _ => ?_)
  by_cases hkey : member.1 = some "name"
  · simp [hkey, h]
  · simp [hkey]

/-- The name as what would stand for it. -/
def nameTree (name : Option String) : List Tree := name.toList.map fun text => .string (some text)

theorem nameTree_inj {name name' : Option String} : nameTree name = nameTree name' ↔ name = name' := by
  refine ⟨fun h => ?_, fun h => h ▸ rfl⟩
  cases name <;> cases name' <;> simp [nameTree] at h ⊢
  exact h

/-- The members are read if all of them can be passed and the name is given at most once. -/
theorem readMembers_eq_ok : ∀ {members : Members} {found result : Option String},
    readMembers s found members = .ok result ↔
      (∀ member ∈ members, Passes s member) ∧
        nameTree found ++ nameTrees members = nameTree result
  | [], found, result => by
    rw [nameTrees, List.filter_nil, List.map_nil, List.append_nil, nameTree_inj]
    exact ⟨fun h => ⟨fun _ h => absurd h List.not_mem_nil, Except.ok.inj h⟩, fun h => congrArg _ h.2⟩
  | (none, tree) :: members, found, result => by
    refine iff_of_false nofun fun h => ?_
    have hkey : (none : Option String).isSome := (h.1 _ List.mem_cons_self).1
    cases hkey
  | (some key, tree) :: members, found, result => by
    rw [List.forall_mem_cons]
    by_cases hkey : key = "name"
    · subst hkey
      have htrees : nameTrees ((some "name", tree) :: members) = tree :: nameTrees members := rfl
      have hpasses : Passes s (some "name", tree) := ⟨rfl, fun h => absurd rfl h⟩
      rw [htrees]
      cases found with
      | some name =>
        refine iff_of_false nofun fun h => ?_
        have hlength := congrArg List.length h.2
        cases result <;> simp [nameTree] at hlength
      | none =>
        have hread : readMembers s none ((some "name", tree) :: members) =
            Format.string.read s tree >>= fun name => readMembers s (some name) members := rfl
        rw [hread, bind_eq_ok]
        simp only [Format.string_read_eq_ok, readMembers_eq_ok]
        constructor
        · rintro ⟨name, rfl, hmembers, hname⟩
          exact ⟨⟨hpasses, hmembers⟩, hname⟩
        · rintro ⟨⟨-, hmembers⟩, hname⟩
          cases result with
          | none => cases hname
          | some name =>
            obtain ⟨rfl, -⟩ := List.cons.inj hname
            exact ⟨name, rfl, hmembers, hname⟩
    · have htrees : nameTrees ((some key, tree) :: members) = nameTrees members :=
        congrArg (List.map _) (List.filter_cons_of_neg (by simp [hkey]))
      have hread : readMembers s found ((some key, tree) :: members) =
          (if s.kept then .ok () else unlessFault (tree.readFault? s.room)) >>= fun _ =>
            readMembers s found members := by
        cases hkept : s.kept
        · simp [readMembers, hkey, hkept]
        · simp [readMembers, hkey, hkept]
          rfl
      have hpasses : (if s.kept then .ok () else unlessFault (tree.readFault? s.room)) = .ok () ↔
          Passes s (some key, tree) := by
        cases hkept : s.kept <;> simp [Passes, hkey, hkept, unlessFault_eq_ok]
      rw [hread, bind_eq_ok, htrees]
      simp only [hpasses, readMembers_eq_ok, and_assoc]
      exact exists_const Unit

/-- No alternative is chosen if no key names one. -/
theorem choose?_eq_none : ∀ {members : Members}, choose? alternative? members = none ↔
    ∀ member ∈ members, ∀ key, member.1 = some key → alternative? key = none
  | [] => iff_of_true rfl fun _ h => absurd h List.not_mem_nil
  | (none, _) :: members => by
    rw [List.forall_mem_cons, choose?, choose?_eq_none]
    exact ⟨fun h => ⟨nofun, h⟩, fun h => h.2⟩
  | (some key, tree) :: members => by
    rw [List.forall_mem_cons, choose?]
    cases hkey : alternative? key with
    | none =>
      dsimp only
      rw [choose?_eq_none]
      refine ⟨fun h => ⟨fun other hother => ?_, h⟩, fun h => h.2⟩
      rwa [← Option.some.inj hother]
    | some reader =>
      refine iff_of_false nofun fun h => ?_
      rw [h.1 key rfl] at hkey
      cases hkey

/-- What stands before the first key that names an alternative does not count. -/
theorem choose?_append {before rest : Members} (h : choose? alternative? before = none) :
    choose? alternative? (before ++ rest) = choose? alternative? rest := by
  induction before with
  | nil => rfl
  | cons member before ih =>
    obtain ⟨key, tree⟩ := member
    cases key with
    | none => exact ih h
    | some key =>
      rw [choose?] at h
      rw [List.cons_append, choose?]
      cases hkey : alternative? key with
      | none =>
        rw [hkey] at h
        exact ih h
      | some reader =>
        rw [hkey] at h
        cases h

theorem choose?_cons {key : String} {reader : Reader κ} {content : Tree}
    (h : alternative? key = some reader) (after : Members) :
    choose? alternative? ((some key, content) :: after) = some (reader, content) := by
  rw [choose?, h]

/-- An alternative is chosen by the first key that names one. -/
theorem exists_of_choose? {reader : Reader κ} {content : Tree} : ∀ {members : Members},
    choose? alternative? members = some (reader, content) →
      ∃ before key after, members = before ++ (some key, content) :: after ∧
        choose? alternative? before = none ∧ alternative? key = some reader
  | (none, tree) :: members, h => by
    replace h : choose? alternative? members = some (reader, content) := h
    obtain ⟨before, key, after, rfl, hbefore, hkey⟩ := exists_of_choose? h
    exact ⟨(none, tree) :: before, key, after, rfl, hbefore, hkey⟩
  | (some key, tree) :: members, h => by
    rw [choose?] at h
    cases hkey : alternative? key with
    | some found =>
      rw [hkey] at h
      cases h
      exact ⟨[], key, members, rfl, rfl, hkey⟩
    | none =>
      rw [hkey] at h
      replace h : choose? alternative? members = some (reader, content) := h
      obtain ⟨before, other, after, rfl, hbefore, hother⟩ := exists_of_choose? h
      refine ⟨(some key, tree) :: before, other, after, rfl, ?_, hother⟩
      rw [choose?, hkey]
      exact hbefore

/-- A tagged record is read from an object that gives its name once and has a key that names an
alternative, whose content is read. -/
theorem read_eq_ok {record choice : String} {tree : Tree} {name : String} {k : κ} :
    read record choice alternative? s tree = .ok (name, k) ↔
      ∃ members inner reader content, tree = .object members .closed ∧ s.enter = .ok inner ∧
        readMembers inner none members = .ok (some name) ∧
        choose? alternative? members = some (reader, content) ∧
        reader { inner with kept := true } content = .ok k := by
  constructor
  · intro h
    cases tree with
    | object members ending =>
      obtain ⟨inner, henter, h⟩ := bind_eq_ok.mp h
      obtain ⟨found, hmembers, h⟩ := bind_eq_ok.mp h
      obtain ⟨_, hending, h⟩ := bind_eq_ok.mp h
      obtain rfl := Json.Ending.readFault?_eq_none.mp (unlessFault_eq_ok.mp hending)
      cases found with
      | none => cases h
      | some found =>
        cases hchoose : choose? alternative? members with
        | none =>
          rw [hchoose] at h
          cases h
        | some chosen =>
          obtain ⟨reader, content⟩ := chosen
          rw [hchoose] at h
          replace h : (found, ·) <$> reader { inner with kept := true } content = .ok (name, k) := h
          obtain ⟨_, hcontent, h⟩ := map_eq_ok.mp h
          cases h
          exact ⟨members, inner, reader, content, rfl, henter, hmembers, hchoose, hcontent⟩
    | _ => cases h
  · rintro ⟨members, inner, reader, content, rfl, henter, hmembers, hchoose, hcontent⟩
    refine bind_eq_ok.mpr ⟨inner, henter, bind_eq_ok.mpr ⟨some name, hmembers,
      bind_eq_ok.mpr ⟨(), rfl, ?_⟩⟩⟩
    rw [hchoose]
    exact bind_eq_ok.mpr ⟨k, hcontent, rfl⟩

end Tagged

/-! ### Kinds and their names -/

theorem Scalar.name_of_ofName? {name : String} {type : Scalar} (h : ofName? name = some type) :
    name = type.name := by
  unfold ofName? at h
  split at h <;> cases h <;> rfl

theorem Shape.name_of_ofName? {name : String} {shape : Shape} (h : ofName? name = some shape) :
    name = shape.name := by
  unfold ofName? at h
  split at h <;> cases h <;> rfl

/-- What holds of the content of each kind of a leaf holds of every content that is looked up. -/
theorem Leaf.kind?_induction {p : String → Reader Leaf → Prop}
    (scalar : ∀ type : Scalar, p type.name (readScalar type))
    (collection : ∀ shape : Shape, p shape.name fun s tree => do
      let (facets, element) ← collectionRecord.read s tree
      return .collection shape facets element)
    (object : p "object" fun s tree => do
      let (facets, attributes) ← objectRecord.read s tree
      return .object facets attributes)
    {name : String} {reader : Reader Leaf} (h : kind? name = some reader) : p name reader := by
  unfold kind? at h
  cases hscalar : Scalar.ofName? name with
  | some type =>
    rw [hscalar] at h
    cases h
    rw [Scalar.name_of_ofName? hscalar]
    exact scalar type
  | none =>
    cases hshape : Shape.ofName? name with
    | some shape =>
      rw [hscalar, hshape] at h
      cases h
      rw [Shape.name_of_ofName? hshape]
      exact collection shape
    | none =>
      rw [hscalar, hshape] at h
      by_cases hname : name = "object"
      · subst hname
        cases h
        exact object
      · dsimp only at h
        rw [if_neg hname] at h
        cases h

/-- What holds of the content of each kind of an attribute holds of every content that is looked
up. -/
theorem AttributeKind.kind?_induction {child : Format α}
    {p : String → Reader (AttributeKind α) → Prop}
    (nested : ∀ shape : Shape, p (nestedName shape) (readNested child shape))
    (single : p "single_nested" fun s tree => do
      let (facets, external, attributes) ← (singleRecord child).read s tree
      return .single facets external attributes)
    (leaf : ∀ name reader, Leaf.kind? name = some reader →
      p name fun s tree => .leaf <$> reader s tree)
    {name : String} {reader : Reader (AttributeKind α)} (h : kind? child name = some reader) :
    p name reader := by
  unfold kind? at h
  split at h
  · cases h
    exact nested .list
  · cases h
    exact nested .map
  · cases h
    exact nested .set
  · cases h
    exact single
  · obtain ⟨reader, hreader, rfl⟩ := Option.map_eq_some_iff.mp h
    exact leaf _ _ hreader

theorem BlockKind.kind?_induction {α β : Type} {child : Format α} {block : Format β}
    {p : String → Reader (BlockKind α β) → Prop}
    (nested : ∀ shape : BlockShape, p (nestedName shape) (readNested child block shape))
    (single : p "single_nested" fun s tree => do
      let (facets, external, attributes, blocks) ← (singleRecord child block).read s tree
      return .single facets external attributes blocks)
    {name : String} {reader : Reader (BlockKind α β)} (h : kind? child block name = some reader) :
    p name reader := by
  unfold kind? at h
  split at h <;> cases h
  · exact nested .list
  · exact nested .set
  · exact single

/-- What holds of the content of each kind of an element type holds of every content that is looked
up. -/
theorem ElementType.kind?_induction {depth : Nat} {p : String → Reader ElementType → Prop}
    (scalar : ∀ type : Scalar, p type.name fun s tree => .scalar type <$> scalarRecord.read s tree)
    (collection : ∀ shape : Shape, p shape.name fun s tree => do
      let (custom, element) ← (collectionRecord ⟨readWith (kind? depth), write⟩).read s tree
      return .collection shape custom element)
    (object : p "object" fun s tree => do
      let (custom, attributes) ← (objectRecord (attributeFormatWith (kind? depth))).read s tree
      return .object custom attributes)
    {name : String} {reader : Reader ElementType} (h : kind? (depth + 1) name = some reader) :
    p name reader := by
  unfold kind? at h
  cases hscalar : Scalar.ofName? name with
  | some type =>
    rw [hscalar] at h
    cases h
    rw [Scalar.name_of_ofName? hscalar]
    exact scalar type
  | none =>
    cases hshape : Shape.ofName? name with
    | some shape =>
      rw [hscalar, hshape] at h
      cases h
      rw [Shape.name_of_ofName? hshape]
      exact collection shape
    | none =>
      rw [hscalar, hshape] at h
      by_cases hname : name = "object"
      · subst hname
        cases h
        exact object
      · dsimp only at h
        rw [if_neg hname] at h
        cases h

theorem AttributeKind.mem_names {child : Format α} {name : String} {reader : Reader (AttributeKind α)}
    (h : kind? child name = some reader) : name ∈ names := by
  have hleaf : ∀ name reader, Leaf.kind? name = some reader → name ∈ names := by
    intro name reader hreader
    refine Leaf.kind?_induction (p := fun name _ => name ∈ names) ?_ ?_ ?_ hreader
    · intro type
      cases type <;> exact List.contains_iff_mem.mp rfl
    · intro shape
      cases shape <;> exact List.contains_iff_mem.mp rfl
    · exact List.contains_iff_mem.mp rfl
  refine kind?_induction (p := fun name _ => name ∈ names) ?_ ?_ hleaf h
  · intro shape
    cases shape <;> exact List.contains_iff_mem.mp rfl
  · exact List.contains_iff_mem.mp rfl

theorem BlockKind.mem_names {α β : Type} {child : Format α} {block : Format β} {name : String}
    {reader : Reader (BlockKind α β)} (h : kind? child block name = some reader) : name ∈ names := by
  refine kind?_induction (p := fun name _ => name ∈ names) ?_ ?_ h
  · intro shape
    cases shape <;> exact List.contains_iff_mem.mp rfl
  · exact List.contains_iff_mem.mp rfl

theorem ElementType.mem_names {depth : Nat} {name : String} {reader : Reader ElementType}
    (h : kind? (depth + 1) name = some reader) : name ∈ names := by
  refine kind?_induction (p := fun name _ => name ∈ names) ?_ ?_ ?_ h
  · intro type
    cases type <;> exact List.contains_iff_mem.mp rfl
  · intro shape
    cases shape <;> exact List.contains_iff_mem.mp rfl
  · exact List.contains_iff_mem.mp rfl

/-! ### Named values -/

/-- The types that are a name plus a kind, read up to some depth of values inside each other: the
names of their kinds, how the content of each is read, and what a name and a kind make. -/
inductive NamedType : {α κ : Type} → Format α → List String → (String → Option (Reader κ)) →
    (String → κ → α) → Prop
  | namedAttribute (depth : Nat) :
    NamedType ⟨Attribute.readTo (depth + 1), Attribute.write⟩ AttributeKind.names
      (AttributeKind.kind? ⟨Attribute.readTo depth, Attribute.write⟩) .mk
  | namedBlock (depth : Nat) :
    NamedType ⟨Block.readTo (depth + 1), Block.write⟩ BlockKind.names
      (BlockKind.kind? Attribute.format ⟨Block.readTo depth, Block.write⟩) .mk
  | objectAttribute (depth : Nat) :
    NamedType (ElementType.attributeFormatWith (ElementType.kind? (depth + 1))) ElementType.names
      (ElementType.kind? (depth + 1)) Prod.mk

namespace NamedType

variable {format : Format α} {names : List String} {kind? : String → Option (Reader κ)}
  {mk : String → κ → α}

/-- The keys under which a content is read are the names of the kinds. -/
theorem kind?_isSome_iff (h : NamedType format names kind? mk) {key : String} :
    (kind? key).isSome ↔ key ∈ names := by
  constructor
  · intro hkey
    obtain ⟨reader, hreader⟩ := Option.isSome_iff_exists.mp hkey
    cases h with
    | namedAttribute => exact AttributeKind.mem_names hreader
    | namedBlock => exact BlockKind.mem_names hreader
    | objectAttribute => exact ElementType.mem_names hreader
  · have hall : names.all fun key => (kind? key).isSome := by cases h <;> rfl
    exact List.all_eq_true.mp hall key

theorem kind?_eq_none_iff (h : NamedType format names kind? mk) {key : String} :
    kind? key = none ↔ key ∉ names := by
  rw [← h.kind?_isSome_iff, Option.not_isSome_iff_eq_none]

/-- The name is not the name of a kind. -/
theorem name_notMem (h : NamedType format names kind? mk) : "name" ∉ names := by
  refine h.kind?_eq_none_iff.mp ?_
  cases h <;> rfl

/-- No key names a kind if no alternative is chosen. -/
theorem kindKeys_eq_nil_iff (h : NamedType format names kind? mk) {members : Members} :
    kindKeys names members = [] ↔ Tagged.choose? kind? members = none := by
  rw [Tagged.choose?_eq_none, kindKeys, List.filter_eq_nil_iff]
  simp only [List.mem_filterMap, h.kind?_eq_none_iff, List.contains_iff_mem]
  exact ⟨fun hkeys member hmember key hkey => hkeys key ⟨member, hmember, hkey⟩,
    fun hkeys key ⟨member, hmember, hkey⟩ => hkeys member hmember key hkey⟩

/-- A named value is read as a tagged record. -/
theorem read_eq (h : NamedType format names kind? mk) : ∃ record choice, ∀ s tree,
    format.read s tree =
      (fun found => mk found.1 found.2) <$> Tagged.read record choice kind? s tree := by
  cases h with
  | namedAttribute => exact ⟨"Attribute", "AttributeKind", fun _ _ => rfl⟩
  | namedBlock => exact ⟨"Block", "BlockKind", fun _ _ => rfl⟩
  | objectAttribute =>
    refine ⟨"ObjectAttributeType", "ElementType", fun s tree => ?_⟩
    exact (id_map (Tagged.read "ObjectAttributeType" "ElementType" _ s tree)).symm

/-- What is read of an object with several kinds is read of it with the first kind alone. -/
theorem read_first (h : NamedType format names kind? mk) {s : Setting} {tree : Tree} {a : α}
    (hread : format.read s tree = .ok a) :
    ∃ before key content after name k reader inner,
      tree = .object (before ++ (some key, content) :: after) .closed ∧
      kindKeys names before = [] ∧ key ∈ names ∧
      Tagged.nameTrees (before ++ (some key, content) :: after) = [.string (some name)] ∧
      s.enter = .ok inner ∧ kind? key = some reader ∧
      reader { inner with kept := true } content = .ok k ∧ a = mk name k ∧
      format.read s (.object (before ++ (some key, content) :: dropKinds names after) .closed) =
        .ok a := by
  obtain ⟨record, choice, hformat⟩ := h.read_eq
  rw [hformat] at hread
  obtain ⟨⟨name, k⟩, htagged, rfl⟩ := map_eq_ok.mp hread
  obtain ⟨members, inner, reader, content, rfl, henter, hmembers, hchoose, hcontent⟩ :=
    Tagged.read_eq_ok.mp htagged
  obtain ⟨before, key, after, rfl, hbefore, hkey⟩ := Tagged.exists_of_choose? hchoose
  obtain ⟨hpasses, hname⟩ := Tagged.readMembers_eq_ok.mp hmembers
  refine ⟨before, key, content, after, name, k, reader, inner, rfl, h.kindKeys_eq_nil_iff.mpr hbefore,
    h.kind?_isSome_iff.mp (hkey ▸ rfl), hname, henter, hkey, hcontent, rfl, ?_⟩
  rw [hformat]
  refine map_eq_ok.mpr ⟨(name, k), Tagged.read_eq_ok.mpr ?_, rfl⟩
  refine ⟨_, inner, reader, content, rfl, henter, Tagged.readMembers_eq_ok.mpr ⟨?_, ?_⟩, ?_, hcontent⟩
  · have hsub : (dropKinds names after).Sublist after := List.filter_sublist
    have hall := ((hsub.cons_cons (some key, content)).append_left before).subset
    exact fun member hmember => hpasses member (hall hmember)
  · rw [← hname]
    simp only [Tagged.nameTrees_append, Tagged.nameTrees_cons _ (dropKinds names after),
      Tagged.nameTrees_cons _ after, Tagged.nameTrees_dropKinds h.name_notMem]
  · rw [Tagged.choose?_append hbefore, Tagged.choose?_cons hkey]

end NamedType

theorem Format.readText_eq_ok {format : Format α} {text : String} {a : α} :
    format.readText text = .ok a ↔ format.read .root (Document.ofText text).root = .ok a ∧
      (Document.ofText text).trailing = false := by
  rw [readText, bind_eq_ok]
  cases (Document.ofText text).trailing with
  | false => exact ⟨fun ⟨_, hread, h⟩ => ⟨by cases h; exact hread, rfl⟩, fun h => ⟨a, h.1, rfl⟩⟩
  | true => exact iff_of_false (fun ⟨_, _, h⟩ => nomatch h) fun h => nomatch h.2

/-- A text that is read as a named value is an object with one name and at least one kind. The first
kind is the one that is read, and without all others the same is read. -/
theorem readText_first_kind {format : Format α} {names : List String}
    {kind? : String → Option (Reader κ)} {mk : String → κ → α}
    (htype : NamedType format names kind? mk) {text : String} {a : α}
    (hread : format.readText text = .ok a) :
    ∃ before key content after name k reader,
      Document.ofText text = ⟨.object (before ++ (some key, content) :: after) .closed, false⟩ ∧
      Tagged.nameTrees (before ++ (some key, content) :: after) = [.string (some name)] ∧
      kindKeys names before = [] ∧ key ∈ names ∧
      kind? key = some reader ∧ reader ⟨true, Setting.deepest - 1⟩ content = .ok k ∧ a = mk name k ∧
      format.read .root (.object (before ++ (some key, content) :: dropKinds names after) .closed) =
        .ok a := by
  obtain ⟨hread, htrailing⟩ := Format.readText_eq_ok.mp hread
  obtain ⟨before, key, content, after, name, k, reader, inner, hroot, hbefore, hkey, hname, henter,
    hreader, hcontent, ha, hfirst⟩ := htype.read_first hread
  cases henter
  refine ⟨before, key, content, after, name, k, reader, ?_, hname, hbefore, hkey, hreader, hcontent,
    ha, hfirst⟩
  rw [← hroot, ← htrailing]

/-! ### Two kinds for one name -/

/-- Whether a text is an object in which these keys name a kind. -/
def GivesKinds (names : List String) (text : String) (keys : List String) : Prop :=
  ∃ members, Document.ofText text = ⟨.object members .closed, false⟩ ∧ kindKeys names members = keys

/-- An object with a name and the keys of two kinds over the same content. -/
def twoKinds (first second : String) (content : Value) : Value :=
  .object [("name", .string "x"), (first, content), (second, content)]

def optionalContent : Value := .object [("computed_optional_required", .string "optional")]

/-- Such an object is read as its tree is. -/
theorem twoKinds_reads {format : Format α} {names : List String} {first second : String}
    {content : Value} {keys : List String} {a : α} (hreadable : content.Readable)
    (hkeys : ["name", first, second].filter names.contains = keys)
    (hread : format.read .root (twoKinds first second content).tree = .ok a) :
    GivesKinds names (twoKinds first second content).compact keys ∧
      format.readText (twoKinds first second content).compact = .ok a := by
  have hdocument : Document.ofText (twoKinds first second content).compact =
      ⟨(twoKinds first second content).tree, false⟩ :=
    Value.ofText_compact ⟨trivial, hreadable, hreadable, trivial⟩
  rw [GivesKinds, Format.readText_eq_ok, hdocument]
  exact ⟨⟨_, rfl, hkeys⟩, hread, rfl⟩

theorem twoKinds_attribute :
    GivesKinds AttributeKind.names (twoKinds "bool" "string" optionalContent).compact
        ["bool", "string"] ∧
      Attribute.format.readText (twoKinds "bool" "string" optionalContent).compact =
        .ok (.mk "x" (.leaf (.bool { mode := .optional }))) :=
  twoKinds_reads ⟨trivial, trivial⟩ rfl rfl

/-- An object with two kinds is read as a value of each of the three types, with the first of
them. -/
theorem two_kinds_read :
    (twoKinds "bool" "string" optionalContent).compact =
      "\x7b\"name\":\"x\",\"bool\":\x7b\"computed_optional_required\":\"optional\"\x7d," ++
        "\"string\":\x7b\"computed_optional_required\":\"optional\"\x7d\x7d" ∧
    (GivesKinds AttributeKind.names (twoKinds "bool" "string" optionalContent).compact
        ["bool", "string"] ∧
      Attribute.format.readText (twoKinds "bool" "string" optionalContent).compact =
        .ok (.mk "x" (.leaf (.bool { mode := .optional })))) ∧
    (GivesKinds BlockKind.names (twoKinds "list_nested" "set_nested" (.object [])).compact
        ["list_nested", "set_nested"] ∧
      Block.format.readText (twoKinds "list_nested" "set_nested" (.object [])).compact =
        .ok (.mk "x" (.nested .list {} none))) ∧
    (GivesKinds ElementType.names (twoKinds "bool" "string" (.object [])).compact
        ["bool", "string"] ∧
      ElementType.attributeFormat.readText (twoKinds "bool" "string" (.object [])).compact =
        .ok ("x", .scalar .bool none)) := by
  refine ⟨by decide +kernel, twoKinds_attribute, ?_, ?_⟩
  · exact twoKinds_reads trivial rfl rfl
  · exact twoKinds_reads trivial rfl rfl

/-- The text with two kinds is read as with the first one alone. -/
theorem readText_first_kind_twoKinds :
    ∃ before key content after name k reader,
      Document.ofText (twoKinds "bool" "string" optionalContent).compact =
        ⟨.object (before ++ (some key, content) :: after) .closed, false⟩ ∧
      Tagged.nameTrees (before ++ (some key, content) :: after) = [.string (some name)] ∧
      kindKeys AttributeKind.names before = [] ∧ key ∈ AttributeKind.names ∧
      AttributeKind.kind? ⟨Attribute.readTo Setting.deepest, Attribute.write⟩ key = some reader ∧
      reader ⟨true, Setting.deepest - 1⟩ content = .ok k ∧
      Attribute.mk "x" (.leaf (.bool { mode := .optional })) = .mk name k ∧
      Attribute.format.read .root
          (.object (before ++ (some key, content) :: dropKinds AttributeKind.names after) .closed) =
        .ok (.mk "x" (.leaf (.bool { mode := .optional }))) :=
  readText_first_kind (.namedAttribute Setting.deepest) twoKinds_attribute.2

end ProviderCode
