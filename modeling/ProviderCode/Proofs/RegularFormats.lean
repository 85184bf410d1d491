import ProviderCode.Proofs.FormatRoundTrip
import ProviderCode.Proofs.MemberOrder

/-!
# Regular formats

A format is regular at a position of a document if the order of members does not matter to it, as long
as named values have one kind, and if what it writes for a value is at most one container deeper than
what the value was read from. The one container is a list that is written although it was not given.

Formats that are put together from regular ones are regular.
-/

namespace ProviderCode

open Json (Ending Tree Value)
open List (Forall₂)

variable {σ τ α β κ : Type} {p q : Position} {s : Setting} {tree tree' : Tree}

/-! ### Depth of trees -/

namespace Json

mutual

/-- How many containers are inside each other. -/
def Tree.depth : Tree → Nat
  | .array items _ => treesDepth items + 1
  | .object members _ => memberTreesDepth members + 1
  | _ => 0
termination_by structural tree => tree

def treesDepth : List Tree → Nat
  | [] => 0
  | item :: items => max item.depth (treesDepth items)
termination_by structural items => items

def memberTreesDepth : List (Option String × Tree) → Nat
  | [] => 0
  | (_, tree) :: members => max tree.depth (memberTreesDepth members)
termination_by structural members => members

end

theorem depth_le_treesDepth : ∀ {items : List Tree}, ∀ item ∈ items, item.depth ≤ treesDepth items
  | [] => fun _ h => absurd h List.not_mem_nil
  | _ :: _ => List.forall_mem_cons.mpr ⟨Nat.le_max_left _ _, fun item hitem =>
      Nat.le_trans (depth_le_treesDepth item hitem) (Nat.le_max_right _ _)⟩

theorem depth_le_memberTreesDepth : ∀ {members : List (Option String × Tree)},
    ∀ member ∈ members, member.2.depth ≤ memberTreesDepth members
  | [] => fun _ h => absurd h List.not_mem_nil
  | (_, _) :: _ => List.forall_mem_cons.mpr ⟨Nat.le_max_left _ _, fun member hmember =>
      Nat.le_trans (depth_le_memberTreesDepth member hmember) (Nat.le_max_right _ _)⟩

/-- What is inside a container is less deep. -/
theorem Tree.depth_lt {part : Tree} (h : part ∈ tree.parts) : part.depth < tree.depth := by
  cases tree with
  | array items => exact Nat.lt_succ_of_le (depth_le_treesDepth part h)
  | object members =>
    obtain ⟨member, hmember, rfl⟩ := List.mem_map.mp h
    exact Nat.lt_succ_of_le (depth_le_memberTreesDepth member hmember)
  | _ => cases h

theorem Tree.depth_pos (h : tree.isContainer) : 0 < tree.depth := by
  cases tree with
  | array => exact Nat.succ_pos _
  | object => exact Nat.succ_pos _
  | _ => cases h

end Json

/-- How deep what is written for a value may be: one container more than there was room for, and one
more than what was read. -/
def Setting.bound (s : Setting) (tree : Tree) : Nat := min s.room tree.depth + 1

theorem Setting.enter_eq_ok {inner : Setting} :
    s.enter = .ok inner ↔ inner.kept = s.kept ∧ s.room = inner.room + 1 := by
  obtain ⟨kept, room⟩ := s
  cases room with
  | zero => exact iff_of_false nofun fun h => nomatch h.2
  | succ room =>
    constructor
    · intro h
      cases h
      exact ⟨rfl, rfl⟩
    · obtain ⟨kept', room'⟩ := inner
      rintro ⟨rfl, hroom⟩
      cases Nat.succ.inj hroom
      rfl

/-- What fits in a container's part fits in the container, with one container around it. -/
theorem Setting.bound_lt {inner : Setting} {part : Tree} (henter : s.enter = .ok inner)
    (hpart : part ∈ tree.parts) : inner.bound part < s.bound tree := by
  have hroom := (enter_eq_ok.mp henter).2
  have hdepth := Tree.depth_lt hpart
  unfold bound
  omega

/-- There is room for an empty list in a container. -/
theorem Setting.one_lt_bound {inner : Setting} (henter : s.enter = .ok inner)
    (htree : tree.isContainer) : 1 < s.bound tree := by
  have hroom := (enter_eq_ok.mp henter).2
  have hdepth := Tree.depth_pos htree
  unfold bound
  omega

/-! ### Regular readers -/

/-- Whether a reader does not depend on the order of members, and what is written for the value that
it reads is not much deeper than what it was read from. -/
structure Reader.Regular (p : Position) (read : Reader α) (write : α → Value) : Prop where
  unordered : ∀ {s : Setting} {tree tree' : Tree}, tree.Reordered tree' → tree.OneKind p →
    Agree (read s tree) (read s tree')
  written : ∀ {s : Setting} {tree : Tree} {a : α}, read s tree = .ok a →
    (write a).depth ≤ s.bound tree

/-- Whether the reader of a format is regular. -/
abbrev Format.Regular (p : Position) (format : Format α) : Prop :=
  Reader.Regular p format.read format.write

namespace Reader.Regular

variable {read : Reader α} {write : α → Value}

/-- What is regular where there are no named values is so anywhere. -/
theorem anywhere (h : Reader.Regular .other read write) : Reader.Regular p read write where
  unordered hreordered _ := h.unordered hreordered (Tree.oneKind_other _)
  written := h.written

theorem map {f : α → β} {write' : β → Value} (h : Reader.Regular p read write)
    (hwrite : ∀ a, write' (f a) = write a) :
    Reader.Regular p (fun s tree => f <$> read s tree) write' where
  unordered hreordered hkind := (h.unordered hreordered hkind).map f
  written hread := by
    obtain ⟨a, ha, rfl⟩ := map_eq_ok.mp hread
    rw [hwrite]
    exact h.written ha

/-- A reader of single values has nothing to reorder. -/
theorem of_single (hread : ∀ s tree a, read s tree = .ok a → tree.isContainer = false)
    (hwrite : ∀ a, (write a).depth = 0) : Reader.Regular p read write where
  unordered {s tree tree'} hreordered _ := by
    cases hcontainer : tree.isContainer with
    | false =>
      rw [hreordered.of_single hcontainer]
      exact .refl _
    | true =>
      have hcontainer' : tree'.isContainer = true := hreordered.isContainer_eq.trans hcontainer
      refine .of_errors (fun a h => ?_) fun a h => ?_
      · rw [hread s tree a h] at hcontainer
        cases hcontainer
      · rw [hread s tree' a h] at hcontainer'
        cases hcontainer'
  written {s tree a} _ := by
    rw [hwrite]
    exact Nat.zero_le _

end Reader.Regular

namespace Format

theorem string_regular : string.Regular p :=
  .of_single (fun s tree a h => by cases tree <;> first | rfl | cases h) fun _ => rfl

theorem bool_regular : bool.Regular p :=
  .of_single (fun s tree a h => by cases tree <;> first | rfl | cases h) fun _ => rfl

theorem int64_regular : int64.Regular p :=
  .of_single (fun s tree a h => by cases tree <;> first | rfl | cases h) fun _ => rfl

theorem float_regular : float.Regular p :=
  .of_single (fun s tree a h => by cases tree <;> first | rfl | cases h) fun _ => rfl

variable {format : Format α}

/-- A value that may be absent is null, or read as one that is there. -/
theorem option_read_eq_ok {a : Option α} (h : format.option.read s tree = .ok a) :
    (tree = .null ∧ a = none) ∨ some <$> format.read s tree = .ok a := by
  unfold option at h
  dsimp only at h
  split at h
  · exact .inl ⟨rfl, (Except.ok.inj h).symm⟩
  · cases h
  · exact .inr h

theorem Regular.option (h : format.Regular p) (hreordered : tree.Reordered tree')
    (hkind : tree.OneKind p) : Agree (format.option.read s tree) (format.option.read s tree') := by
  cases hcontainer : tree.isContainer with
  | false =>
    rw [hreordered.of_single hcontainer]
    exact .refl _
  | true =>
    have hread : ∀ tree : Tree, tree.isContainer →
        format.option.read s tree = some <$> format.read s tree := by
      intro tree htree
      cases tree with
      | array => rfl
      | object => rfl
      | _ => cases htree
    rw [hread tree hcontainer, hread tree' (hreordered.isContainer_eq.trans hcontainer)]
    exact (h.unordered hreordered hkind).map some

theorem list_read_eq_ok {as : List α} : format.list.read s tree = .ok as ↔
    ∃ items inner, tree = .array items .closed ∧ s.enter = .ok inner ∧
      Forall₂ (fun item a => format.read inner item = .ok a) items as := by
  constructor
  · intro h
    cases tree with
    | array items ending =>
      obtain ⟨inner, henter, h⟩ := bind_eq_ok.mp h
      obtain ⟨as, hitems, h⟩ := bind_eq_ok.mp h
      obtain ⟨_, hending, h⟩ := bind_eq_ok.mp h
      cases h
      obtain rfl := Json.Ending.readFault?_eq_none.mp (unlessFault_eq_ok.mp hending)
      exact ⟨items, inner, rfl, henter, mapM_eq_ok.mp hitems⟩
    | _ => cases h
  · rintro ⟨items, inner, rfl, henter, hitems⟩
    exact bind_eq_ok.mpr ⟨inner, henter, bind_eq_ok.mpr ⟨as, mapM_eq_ok.mpr hitems, rfl⟩⟩

theorem Regular.list (h : format.Regular q) (hitem : ∀ i, p.item i = q) :
    format.list.Regular p where
  unordered {s tree tree'} hreordered hkind := by
    cases tree with
    | array items ending =>
      obtain ⟨items', rfl, hitems⟩ := hreordered.of_array
      have hposition : p.item = fun _ => q := funext hitem
      rw [Json.Tree.OneKind, hposition, itemsOneKind_iff] at hkind
      refine (Agree.refl s.enter).bind fun inner => Agree.bind (.mapM ?_) fun as => .refl _
      exact forall₂_imp_of_mem hitems fun item item' hmem hitem => h.unordered hitem (hkind item hmem)
    | object =>
      obtain ⟨moved, members', rfl, -⟩ := hreordered.of_object
      exact .of_errors nofun nofun
    | _ =>
      rw [hreordered.of_single rfl]
      exact .refl _
  written {s tree as} hread := by
    obtain ⟨items, inner, rfl, henter, hitems⟩ := list_read_eq_ok.mp hread
    have hbound : ∀ value ∈ as.map format.write, value.depth + 1 ≤ s.bound (.array items .closed) := by
      intro value hvalue
      obtain ⟨a, ha, rfl⟩ := List.mem_map.mp hvalue
      obtain ⟨item, hmem, hread⟩ := exists_partner hitems ha
      exact Nat.lt_of_le_of_lt (h.written hread) (Setting.bound_lt henter hmem)
    have hpos : 1 < s.bound (.array items .closed) := Setting.one_lt_bound henter rfl
    have hle : Value.itemsDepth (as.map format.write) ≤ s.bound (.array items .closed) - 1 :=
      Value.itemsDepth_le_iff.mpr fun value hvalue => Nat.le_sub_one_of_lt (hbound value hvalue)
    change Value.itemsDepth (as.map format.write) + 1 ≤ _
    omega

end Format

/-! ### Choices -/

namespace Choice

variable {known : List String} {content : Setting → String → Option Tree → Read α} {a : α}

/-- An object is read as a choice if it has one member, for one of the known alternatives. -/
theorem read_object_eq_ok {members : Members} {ending : Ending} :
    read known content s (.object members ending) = .ok a ↔ ∃ key part inner,
      members = [(some key, part)] ∧ (s.kept = false → ending = .closed) ∧ s.enter = .ok inner ∧
        key ∈ known ∧ content inner key (some part) = .ok a := by
  constructor
  · intro h
    unfold read at h
    cases hkept : s.kept with
    | true =>
      rw [hkept, if_pos rfl] at h
      match members, h with
      | [(some key, part)], h =>
        obtain ⟨inner, henter, h⟩ := bind_eq_ok.mp h
        by_cases hkey : key ∈ known
        · rw [List.contains_iff_mem.mpr hkey] at h
          exact ⟨key, part, inner, rfl, nofun, henter, hkey, h⟩
        · rw [Bool.eq_false_iff.mpr (mt List.contains_iff_mem.mp hkey)] at h
          cases h
    | false =>
      rw [hkept, if_neg Bool.false_ne_true] at h
      match members, h with
      | [], h =>
        obtain ⟨_, -, h⟩ := bind_eq_ok.mp h
        obtain ⟨_, -, h⟩ := bind_eq_ok.mp h
        cases h
      | (some key, part) :: members, h =>
        obtain ⟨inner, henter, h⟩ := bind_eq_ok.mp h
        by_cases hkey : key ∈ known
        · rw [List.contains_iff_mem.mpr hkey] at h
          obtain ⟨a, hcontent, h⟩ := bind_eq_ok.mp h
          obtain ⟨_, hfinish, h⟩ := bind_eq_ok.mp h
          cases h
          match members, ending, hfinish with
          | [], .closed, _ => exact ⟨key, part, inner, rfl, fun _ => rfl, henter, hkey, hcontent⟩
        · rw [Bool.eq_false_iff.mpr (mt List.contains_iff_mem.mp hkey)] at h
          cases h
  · rintro ⟨key, part, inner, rfl, hending, henter, hkey, hcontent⟩
    unfold read
    cases hkept : s.kept with
    | true => simp [readKept, henter, hkey, hcontent, bind, Except.bind]
    | false =>
      rw [hending hkept]
      simp [readStreamed, henter, hkey, hcontent, finish, bind, Except.bind, pure, Except.pure]

/-- A choice is an object or a name that stands alone. -/
theorem form_of_read (h : read known content s tree = .ok a) :
    (∃ members ending, tree = .object members ending) ∨
      ∃ key, tree = .string (some key) ∧ content s key none = .ok a := by
  unfold read readKept readStreamed at h
  cases tree with
  | object members ending => exact .inl ⟨members, ending, rfl⟩
  | string text =>
    cases text with
    | none => cases hkept : s.kept <;> rw [hkept] at h <;> cases h
    | some key =>
      refine .inr ⟨key, rfl, ?_⟩
      have hname : (if known.contains key then content s key none
          else .error (.unknown key known)) = .ok a := by
        cases hkept : s.kept <;> rw [hkept] at h <;> exact h
      by_cases hkey : known.contains key
      · rwa [if_pos hkey] at hname
      · rw [if_neg hkey] at hname
        cases hname
  | broken start => cases hkept : s.kept <;> rw [hkept] at h <;> cases start <;> cases h
  | _ => cases hkept : s.kept <;> rw [hkept] at h <;> cases h

theorem read_unordered
    (hcontent : ∀ {s : Setting} {key : String} {part part' : Tree}, part.Reordered part' →
      part.OneKind (p.member key) → Agree (content s key (some part)) (content s key (some part')))
    (hreordered : tree.Reordered tree') (hkind : tree.OneKind p) :
    Agree (read known content s tree) (read known content s tree') := by
  cases tree with
  | object members ending =>
    obtain ⟨moved, members', rfl, hmembers, hperm⟩ := hreordered.of_object
    intro a
    rw [read_object_eq_ok, read_object_eq_ok]
    -- Both objects have one member only, or both have not.
    by_cases hone : ∃ member, members = [member]
    · obtain ⟨member, rfl⟩ := hone
      obtain ⟨member', rest, hmember, hrest, rfl⟩ := List.forall₂_cons_left_iff.mp hmembers
      obtain rfl := List.forall₂_nil_left_iff.mp hrest
      obtain rfl := List.perm_singleton.mp hperm.symm
      cases hmember with
      | @mk key part part' hpart =>
        have hpartKind := membersOneKind_iff.mp hkind.2 _ List.mem_cons_self
        constructor
        · rintro ⟨key, _, inner, ⟨⟩, hending, henter, hkey, h⟩
          exact ⟨key, part', inner, rfl, hending, henter, hkey, (hcontent hpart hpartKind a).mp h⟩
        · rintro ⟨key, _, inner, ⟨⟩, hending, henter, hkey, h⟩
          exact ⟨key, part, inner, rfl, hending, henter, hkey, (hcontent hpart hpartKind a).mpr h⟩
    · have hlength : members'.length = members.length :=
        hperm.length_eq.symm.trans hmembers.length_eq.symm
      refine iff_of_false ?_ ?_
      · rintro ⟨key, part, inner, rfl, -⟩
        exact hone ⟨_, rfl⟩
      · rintro ⟨key, part, inner, rfl, -⟩
        exact hone (List.length_eq_one_iff.mp hlength.symm)
  | array items ending =>
    obtain ⟨items', rfl, -⟩ := hreordered.of_array
    refine .of_errors (fun a h => ?_) fun a h => ?_
    · obtain ⟨_, _, h⟩ | ⟨_, h, -⟩ := form_of_read h <;> cases h
    · obtain ⟨_, _, h⟩ | ⟨_, h, -⟩ := form_of_read h <;> cases h
  | _ =>
    rw [hreordered.of_single rfl]
    exact .refl _

/-- A choice of alternatives with regular contents is regular. -/
theorem regular {alternative? : String → Option (Reader κ)} {entry : κ → String × Value}
    {write : κ → Value} (hwrite : ∀ k, write k = .object [entry k])
    (h : ∀ key reader, alternative? key = some reader →
      Reader.Regular (p.member key) reader fun k => (entry k).2) :
    Reader.Regular p (readAlternative known alternative?) write where
  unordered hreordered hkind := by
    refine read_unordered (fun {s key part part'} hpart hpartKind => ?_) hreordered hkind
    cases hreader : alternative? key with
    | none => exact .refl _
    | some reader => exact (h key reader hreader).unordered hpart hpartKind
  written {s tree k} hread := by
    obtain ⟨members, ending, rfl⟩ | ⟨key, rfl, hcontent⟩ := form_of_read hread
    · obtain ⟨key, part, inner, rfl, -, henter, -, hcontent⟩ := read_object_eq_ok.mp hread
      cases hreader : alternative? key with
      | none =>
        rw [hreader] at hcontent
        cases hcontent
      | some reader =>
        rw [hreader] at hcontent
        have hdepth : (entry k).2.depth ≤ inner.bound part := (h key reader hreader).written hcontent
        have hlt : inner.bound part < s.bound (.object [(some key, part)] ending) :=
          Setting.bound_lt henter List.mem_cons_self
        rw [hwrite]
        change max (entry k).2.depth 0 + 1 ≤ _
        omega
    · cases hreader : alternative? key with
      | none =>
        rw [hreader] at hcontent
        cases hcontent
      | some reader =>
        rw [hreader] at hcontent
        cases hcontent

end Choice

theorem Format.names_regular {names : List (String × α)} {name : α → String} :
    (Format.names names name).Regular p where
  unordered hreordered hkind := by
    refine Choice.read_unordered (fun {s key part part'} hpart _ => ?_) hreordered hkind
    cases names.lookup key with
    | none => exact .refl _
    | some a =>
      refine Agree.bind (fun u => ?_) fun _ => .refl _
      cases hpart with
      | same => rfl
      | array => exact iff_of_false nofun nofun
      | @object members moved members' ending hmembers hperm =>
        -- Only an empty object is nothing, and it stays empty.
        have hempty : members = [] ↔ members' = [] := by
          rw [← List.length_eq_zero_iff, ← List.length_eq_zero_iff, hmembers.length_eq,
            hperm.length_eq]
        cases members with
        | nil =>
          rw [hempty.mp rfl]
        | cons member members =>
          cases members' with
          | nil => cases hempty.mpr rfl
          | cons member' members' => exact iff_of_false nofun nofun
  written _ := Nat.zero_le _

/-- A choice without alternatives reads nothing. -/
theorem Format.never_regular : Format.never.Regular p := ⟨fun _ _ => nofun, fun {_ _ a} _ => a.elim⟩

/-! ### Tagged records -/

theorem kindKeys_eq_nil {names : List String} {members : Members} (h : kindKeys names members = [])
    {key : String} {part : Tree} (hmember : (some key, part) ∈ members) : key ∉ names := fun hkey => by
  have hmem : key ∈ members.filterMap (·.1) := List.mem_filterMap.mpr ⟨_, hmember, rfl⟩
  exact List.filter_eq_nil_iff.mp h key hmem (List.contains_iff_mem.mpr hkey)

theorem kindKeys_append (names : List String) (before after : Members) :
    kindKeys names (before ++ after) = kindKeys names before ++ kindKeys names after := by
  rw [kindKeys, List.filterMap_append, List.filter_append]
  rfl

/-- The keys of the kinds are the same for other values, and as many in another order. -/
theorem length_kindKeys_of_reordered {names : List String} {members moved members' : Members}
    (h : Forall₂ (Json.UnderKey Tree.Reordered) members moved) (hperm : moved.Perm members') :
    (kindKeys names members').length = (kindKeys names members).length := by
  have hkeys : members.map (·.1) = moved.map (·.1) := map_eq_of_forall₂ h fun _ _ hkey => by
    cases hkey
    rfl
  have hsame : members.filterMap (·.1) = moved.filterMap (·.1) := by
    have hmap := congrArg (List.filterMap id) hkeys
    rwa [List.filterMap_map, List.filterMap_map] at hmap
  rw [kindKeys, kindKeys, hsame]
  exact ((hperm.filterMap _).filter _).length_eq.symm

namespace Tagged

variable {alternative? : String → Option (Reader κ)} {names : List String} {members : Members}
  {inner : Setting} {name : String} {k : κ}

/-- The content of a kind is chosen by its key, wherever it stands, if no other key names a kind. -/
theorem choose?_eq_some (hnames : ∀ key reader, alternative? key = some reader → key ∈ names)
    (hone : (kindKeys names members).length ≤ 1) {reader : Reader κ} {content : Tree} :
    choose? alternative? members = some (reader, content) ↔
      ∃ key, (some key, content) ∈ members ∧ alternative? key = some reader := by
  constructor
  · intro h
    obtain ⟨before, key, after, rfl, -, hkey⟩ := exists_of_choose? h
    exact ⟨key, List.mem_append_right _ List.mem_cons_self, hkey⟩
  · rintro ⟨key, hmember, hkey⟩
    obtain ⟨before, after, rfl⟩ := List.append_of_mem hmember
    have hmem : key ∈ names := hnames key reader hkey
    have hfirst : kindKeys names ((some key, content) :: after) = key :: kindKeys names after :=
      List.filter_cons_of_pos (List.contains_iff_mem.mpr hmem)
    have hbefore : kindKeys names before = [] := by
      rw [kindKeys_append, hfirst, List.length_append, List.length_cons] at hone
      exact List.length_eq_zero_iff.mp (by omega)
    have hnone : choose? alternative? before = none := choose?_eq_none.mpr fun member hbeforeMem => by
      obtain ⟨_, part⟩ := member
      rintro other rfl
      have hnot : other ∉ names := kindKeys_eq_nil hbefore hbeforeMem
      exact Option.eq_none_iff_forall_ne_some.mpr fun reader hreader =>
        hnot (hnames other reader hreader)
    rw [choose?_append hnone, choose?_cons hkey]

/-- What the members of a tagged record give, in whatever order. -/
def Gives (alternative? : String → Option (Reader κ)) (inner : Setting) (members : Members)
    (name : String) (k : κ) : Prop :=
  (∀ member ∈ members, Passes inner member) ∧ nameTrees members = [.string (some name)] ∧
    ∃ key reader content, (some key, content) ∈ members ∧ alternative? key = some reader ∧
      reader { inner with kept := true } content = .ok k

theorem read_object_eq_ok {record choice : String}
    (hnames : ∀ key reader, alternative? key = some reader → key ∈ names)
    (hone : (kindKeys names members).length ≤ 1) {ending : Ending} :
    read record choice alternative? s (.object members ending) = .ok (name, k) ↔
      ending = .closed ∧ ∃ inner, s.enter = .ok inner ∧ Gives alternative? inner members name k := by
  rw [read_eq_ok]
  constructor
  · rintro ⟨_, inner, reader, content, ⟨⟩, henter, hmembers, hchoose, hcontent⟩
    obtain ⟨hpasses, hname⟩ := readMembers_eq_ok.mp hmembers
    obtain ⟨key, hmember, hkey⟩ := (choose?_eq_some hnames hone).mp hchoose
    exact ⟨rfl, inner, henter, hpasses, hname, key, reader, content, hmember, hkey, hcontent⟩
  · rintro ⟨rfl, inner, henter, hpasses, hname, key, reader, content, hmember, hkey, hcontent⟩
    exact ⟨members, inner, reader, content, rfl, henter, readMembers_eq_ok.mpr ⟨hpasses, hname⟩,
      (choose?_eq_some hnames hone).mpr ⟨key, hmember, hkey⟩, hcontent⟩

/-- What members give does not depend on their order. -/
theorem gives_perm {members' : Members} (hperm : members.Perm members') :
    Gives alternative? inner members name k ↔ Gives alternative? inner members' name k := by
  have hnames : (nameTrees members).Perm (nameTrees members') := (hperm.filter _).map _
  have hname : nameTrees members = [.string (some name)] ↔
      nameTrees members' = [.string (some name)] := by
    rw [← List.perm_singleton, ← List.perm_singleton]
    exact ⟨hnames.symm.trans, hnames.trans⟩
  simp only [Gives, hperm.mem_iff, hname]

/-- Lists side by side are one name if one of them is. -/
theorem eq_name_iff {trees trees' : List Tree} (h : Forall₂ Tree.Reordered trees trees') :
    trees = [.string (some name)] ↔ trees' = [.string (some name)] := by
  constructor
  · rintro rfl
    obtain ⟨tree', rest, htree, hrest, rfl⟩ := List.forall₂_cons_left_iff.mp h
    rw [htree.of_single rfl, List.forall₂_nil_left_iff.mp hrest]
  · rintro rfl
    obtain ⟨tree, rest, htree, hrest, rfl⟩ := List.forall₂_cons_right_iff.mp h
    rw [← htree.of_single htree.isContainer_eq.symm, List.forall₂_nil_right_iff.mp hrest]

/-- What members give does not depend on the order inside them. -/
theorem gives_moved {moved : Members} (h : Forall₂ (Json.UnderKey Tree.Reordered) members moved)
    (hcontent : ∀ {key : String} {reader : Reader κ} {content content' : Tree},
      (some key, content) ∈ members → alternative? key = some reader → content.Reordered content' →
        Agree (reader { inner with kept := true } content)
          (reader { inner with kept := true } content')) :
    Gives alternative? inner members name k ↔ Gives alternative? inner moved name k := by
  have hpasses : (∀ member ∈ members, Passes inner member) ↔ ∀ member ∈ moved, Passes inner member :=
    forall_mem_iff_of_forall₂ <| h.imp fun _ _ hkey => by
      cases hkey with
      | mk key htree => simp only [Passes, htree.readFault?_eq_none_iff]
  have htrees : Forall₂ Tree.Reordered (nameTrees members) (nameTrees moved) := by
    refine List.rel_map (fun _ _ hkey => ?_) (List.rel_filter (fun _ _ hkey => ?_) h)
    · cases hkey with
      | mk key htree => exact htree
    · cases hkey
      exact Iff.rfl
  rw [Gives, Gives, hpasses, eq_name_iff htrees]
  refine and_congr_right fun _ => and_congr_right fun _ => ?_
  constructor
  · rintro ⟨key, reader, content, hmember, hkey, hread⟩
    obtain ⟨_, hmoved, hunder⟩ := exists_partner h.flip hmember
    cases hunder with
    | mk _ htree =>
      exact ⟨key, reader, _, hmoved, hkey, (hcontent hmember hkey htree k).mp hread⟩
  · rintro ⟨key, reader, content, hmoved, hkey, hread⟩
    obtain ⟨_, hmember, hunder⟩ := exists_partner h hmoved
    cases hunder with
    | mk _ htree =>
      exact ⟨key, reader, _, hmember, hkey, (hcontent hmember hkey htree k).mpr hread⟩

/-- A name and a kind are regular if the contents of the kinds are. -/
theorem regular {format : Format α} {record choice : String} {entry : κ → String × Value}
    (mk : String → κ → α)
    (hformat : ∀ s tree, format.read s tree =
      (fun found => mk found.1 found.2) <$> read record choice alternative? s tree)
    (hnames : ∀ key reader, alternative? key = some reader → key ∈ p.kinds)
    (hwrite : ∀ name k, format.write (mk name k) = Tagged.write name (entry k).1 (entry k).2)
    (h : ∀ key reader, alternative? key = some reader →
      Reader.Regular (p.member key) reader fun k => (entry k).2) : format.Regular p where
  unordered {s tree tree'} hreordered hkind := by
    rw [hformat, hformat]
    refine Agree.map (fun ⟨name, k⟩ => ?_) _
    cases tree with
    | object members ending =>
      obtain ⟨moved, members', rfl, hmembers, hperm⟩ := hreordered.of_object
      obtain ⟨hone, hparts⟩ := hkind
      have hone' : (kindKeys p.kinds members').length ≤ 1 := by
        rwa [length_kindKeys_of_reordered hmembers hperm]
      rw [read_object_eq_ok hnames hone, read_object_eq_ok hnames hone']
      refine and_congr_right fun _ => exists_congr fun inner => and_congr_right fun _ => ?_
      refine (gives_moved hmembers fun hmember hkey htree => ?_).trans (gives_perm hperm)
      exact (h _ _ hkey).unordered htree (membersOneKind_iff.mp hparts _ hmember)
    | array items ending =>
      obtain ⟨items', rfl, -⟩ := hreordered.of_array
      exact iff_of_false nofun nofun
    | _ =>
      rw [hreordered.of_single rfl]
  written {s tree a} hread := by
    rw [hformat] at hread
    obtain ⟨⟨name, k⟩, hfound, rfl⟩ := map_eq_ok.mp hread
    obtain ⟨members, inner, reader, content, rfl, henter, -, hchoose, hcontent⟩ :=
      read_eq_ok.mp hfound
    obtain ⟨before, key, after, rfl, -, hkey⟩ := exists_of_choose? hchoose
    have hpart : content ∈ (Tree.object (before ++ (some key, content) :: after) .closed).parts :=
      List.mem_map.mpr ⟨(some key, content), List.mem_append_right _ List.mem_cons_self, rfl⟩
    have hdepth := (h key reader hkey).written hcontent
    have hlt := Setting.bound_lt henter hpart
    rw [hwrite]
    change (entry k).2.depth ≤ inner.bound content at hdepth
    change max 0 (max (entry k).2.depth 0) + 1 ≤ _
    omega

end Tagged

end ProviderCode
