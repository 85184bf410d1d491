import ProviderCode.Format.Choice
import ProviderCode.Proofs.JsonTrees

/-!
# Reading what was written

A format restores a value if it reads the value back from the tree of what it writes for it, wherever
there is room for the containers in it. A format for values inside each other may read up to a depth
only, so there is a limit to the room too. What is restored as a tree is read back from the text.
-/

namespace ProviderCode

open Decimal (Numeral)
open Json (Document Tree Value)

variable {α κ : Type} {limit : Nat}

/-! ### Room -/

/-- Whether a setting has room for the containers of a value, and no more than the limit. -/
structure Setting.Fits (limit : Nat) (s : Setting) (value : Value) : Prop where
  depth_le : value.depth ≤ s.room
  room_le : s.room ≤ limit

namespace Setting.Fits

variable {s : Setting}

theorem mono {value : Value} {more : Nat} (h : s.Fits limit value) (hle : limit ≤ more) :
    s.Fits more value := ⟨h.depth_le, Nat.le_trans h.room_le hle⟩

/-- There is room for the parts of a container inside it. -/
theorem enter {value : Value} {depth : Nat} (h : s.Fits limit value)
    (hdepth : value.depth = depth + 1) :
    ∃ room, s.enter = .ok { s with room } ∧ depth ≤ room ∧ room ≤ limit - 1 := by
  obtain ⟨kept, room⟩ := s
  obtain ⟨hle, hlimit⟩ := h
  rw [hdepth] at hle
  cases room with
  | zero => exact absurd hle (Nat.not_succ_le_zero _)
  | succ room => exact ⟨room, rfl, Nat.le_of_succ_le_succ hle, Nat.le_pred_of_lt hlimit⟩

theorem enter_array {items : List Value} (h : s.Fits limit (.array items)) :
    ∃ room, s.enter = .ok { s with room } ∧
      ∀ item ∈ items, Setting.Fits (limit - 1) ⟨s.kept, room⟩ item := by
  obtain ⟨room, henter, hdepth, hroom⟩ := h.enter rfl
  exact ⟨room, henter, fun item hitem => ⟨Value.itemsDepth_le_iff.mp hdepth item hitem, hroom⟩⟩

theorem enter_object {members : List (String × Value)} (h : s.Fits limit (.object members)) :
    ∃ room, s.enter = .ok { s with room } ∧
      ∀ member ∈ members, ∀ kept, Setting.Fits (limit - 1) ⟨kept, room⟩ member.2 := by
  obtain ⟨room, henter, hdepth, hroom⟩ := h.enter rfl
  exact ⟨room, henter, fun member hmember _ =>
    ⟨Value.membersDepth_le_iff.mp hdepth member hmember, hroom⟩⟩

/-- There is room for an object only above the limit zero. -/
theorem limit_pos {members : List (String × Value)} (h : s.Fits limit (.object members)) :
    0 < limit :=
  Nat.lt_of_lt_of_le (Nat.succ_pos _) (Nat.le_trans h.depth_le h.room_le)

end Setting.Fits

/-! ### Formats that restore a value -/

/-- Whether a format reads a value back from what it writes for it, which is never null. -/
structure Format.Restores (limit : Nat) (format : Format α) (a : α) : Prop where
  readable : (format.write a).Readable
  present : format.write a ≠ .null
  read_eq : ∀ s : Setting, s.Fits limit (format.write a) →
    format.read s (format.write a).tree = .ok a

namespace Format

/-- Whether a floating point number is read back from its text, and so is finite. -/
def Survives (x : Float) : Prop := float.readText (float.writeText x) = .ok x

namespace Restores

variable {format : Format α} {a : α}

/-- A value is restored if what is written for it is read back. -/
theorem of_write {read : Reader α} {write : α → Value} {value : Value} (hwrite : write a = value)
    (hreadable : value.Readable) (hpresent : value ≠ .null)
    (hread : ∀ s : Setting, s.Fits limit value → read s value.tree = .ok a) :
    Format.Restores limit ⟨read, write⟩ a := by
  subst hwrite
  exact ⟨hreadable, hpresent, hread⟩

theorem mono {less : Nat} (h : format.Restores limit a) (hle : less ≤ limit) :
    format.Restores less a :=
  ⟨h.readable, h.present, fun s hs => h.read_eq s (hs.mono hle)⟩

/-- What is restored is read back from its text. -/
theorem readText (h : format.Restores Setting.deepest a)
    (hdepth : (format.write a).depth ≤ Setting.deepest) :
    format.readText (format.writeText a) = .ok a := by
  have hread : format.read .root (format.write a).tree = .ok a :=
    h.read_eq .root ⟨hdepth, Nat.le_refl _⟩
  rw [Format.readText, writeText, Value.ofText_compact h.readable]
  exact bind_eq_ok.mpr ⟨a, hread, rfl⟩

/-- A value that is there is read back where it may be absent. -/
theorem read_option (h : format.Restores limit a) {s : Setting}
    (hs : s.Fits limit (format.write a)) :
    format.option.read s (format.write a).tree = .ok (some a) := by
  have hread : some <$> format.read s (format.write a).tree = .ok (some a) := by
    rw [h.read_eq s hs]
    rfl
  rw [← hread]
  have hreadable := h.readable
  have hpresent := h.present
  cases hvalue : format.write a with
  | null => exact absurd hvalue hpresent
  | float x =>
    rw [hvalue] at hreadable
    obtain ⟨n, hn, -⟩ := hreadable
    rw [Value.tree_float hn]
    rfl
  | _ => rfl

end Restores

/-! ### Single values -/

theorem string_restores (s : String) : string.Restores limit s :=
  ⟨trivial, nofun, fun _ _ => rfl⟩

theorem bool_restores (b : Bool) : bool.Restores limit b :=
  ⟨trivial, nofun, fun _ _ => rfl⟩

/-- An integer is read from the amount that it is. -/
theorem int64_read {i : Int64} {n : Numeral} (h : n.amount? = some (Json.integerAmount i.toInt))
    (s : Setting) : int64.read s (.number n) = .ok i := by
  have hofInt : Int64.ofInt i.toInt = i := Int64.ofInt_toInt i
  have hhigh : i.toInt < 9223372036854775808 := i.toInt_lt
  have hbound : Nat.pow 2 63 = 9223372036854775808 := rfl
  unfold int64
  dsimp only
  rw [h]
  cases hi : i.toInt with
  | ofNat m =>
    have hm : (m : Int) < 9223372036854775808 := by rwa [hi] at hhigh
    have hfits : m < Nat.pow 2 63 := by omega
    have hofNat : Int64.ofNat m = i := by rw [← Int64.ofInt_eq_ofNat, ← hofInt, hi]; rfl
    simp only [Json.integerAmount, if_pos hfits, hofNat]
  | negSucc m =>
    rw [← hi, Json.integerAmount.eq_def, hi]
    simp only [← hi, hofInt]

theorem int64_restores (i : Int64) : int64.Restores limit i := by
  have hamount : (Json.integerNumeral i.toInt).amount? = some (Json.integerAmount i.toInt) :=
    Json.amount?_integerNumeral i.le_toInt i.toInt_lt
  refine ⟨?_, nofun, fun s _ => int64_read hamount s⟩
  change (Json.integerNumeral i.toInt).amount?.isSome
  rw [hamount]
  rfl

/-- Only numbers are read as floating point numbers. -/
theorem float_read_ok {s : Setting} {tree : Tree} {x : Float} (h : float.read s tree = .ok x) :
    ∃ n : Numeral, tree = .number n ∧ n.amount?.isSome := by
  cases tree with
  | number n =>
    refine ⟨n, rfl, ?_⟩
    cases hamount : n.amount? with
    | none =>
      simp only [float, hamount] at h
      cases h
    | some amount => rfl
  | _ => cases h

/-- The text of a floating point number that is read back is one number. -/
theorem float_restores {x : Float} (hx : Survives x) : float.Restores limit x := by
  obtain ⟨y, hread, hx⟩ := bind_eq_ok.mp hx
  obtain ⟨n, hroot, hamount⟩ := float_read_ok hread
  have htext : float.writeText x = Value.floatText x := rfl
  -- A document that is a number and has nothing after it is the text of one number.
  have htrailing : (Document.ofText (Value.floatText x)).trailing = false := by
    cases h : (Document.ofText (Value.floatText x)).trailing with
    | false => rfl
    | true =>
      rw [htext, h] at hx
      cases hx
  rw [htext, htrailing] at hx
  cases hx
  rw [htext] at hroot hread
  have hdocument : Document.ofText (Value.floatText x) = ⟨.number n, false⟩ := by
    rw [← hroot, ← htrailing]
  have hscan := Document.scan_of_ofText hdocument
  refine ⟨⟨n, hscan, hamount⟩, nofun, fun s _ => ?_⟩
  change float.read s (Value.tree (.float x)) = .ok x
  rw [Value.tree_float hscan]
  rw [hroot] at hread
  exact hread

/-! ### Values of values -/

theorem list_restores {format : Format α} {as : List α}
    (h : ∀ a ∈ as, format.Restores limit a) : format.list.Restores limit as := by
  refine ⟨Value.itemsReadable_iff.mpr ?_, nofun, fun s hs => ?_⟩
  · intro item hitem
    obtain ⟨a, ha, rfl⟩ := List.mem_map.mp hitem
    exact (h a ha).readable
  · obtain ⟨room, henter, hfits⟩ := hs.enter_array
    have hitems : Value.itemTrees (as.map format.write) = as.map fun a => (format.write a).tree := by
      rw [Value.itemTrees_eq_map, List.map_map]
      rfl
    have hread : (Value.itemTrees (as.map format.write)).mapM (format.read { s with room }) =
        .ok as := by
      rw [hitems, mapM_eq_ok, List.forall₂_map_left_iff, List.forall₂_same]
      intro a ha
      have hmem : format.write a ∈ as.map format.write := List.mem_map_of_mem ha
      exact (h a ha).read_eq _ ((hfits _ hmem).mono (Nat.sub_le ..))
    exact bind_eq_ok.mpr ⟨_, henter, bind_eq_ok.mpr ⟨as, hread, rfl⟩⟩

end Format

/-! ### Choices -/

namespace Choice

/-- A name that stands alone is read as an alternative without content. -/
theorem read_name {known : List String} {content : Setting → String → Option Tree → Read α}
    {key : String} (hkey : key ∈ known) (s : Setting) :
    read known content s (.string (some key)) = content s key none := by
  unfold read readKept readStreamed
  simp [hkey]

/-- The one member of an object is read as an alternative with content. -/
theorem read_member {known : List String} {content : Setting → String → Option Tree → Read α}
    {key : String} {tree : Tree} {s inner : Setting} (hkey : key ∈ known)
    (henter : s.enter = .ok inner) :
    read known content s (.object [(some key, tree)] .closed) = content inner key (some tree) := by
  unfold read
  split
  · simp [readKept, henter, hkey, bind, Except.bind]
  · cases hcontent : content inner key (some tree) <;>
      simp [readStreamed, henter, hkey, hcontent, finish, bind, Except.bind, pure, Except.pure]

/-- Whether the content of an alternative is read back from its entry, its key and what is written
under it. -/
structure Restores (limit : Nat) (alternative? : String → Option (Reader κ))
    (entry : String × Value) (k : κ) : Prop where
  readable : entry.2.Readable
  read_eq : ∀ s : Setting, s.Fits limit entry.2 →
    ∃ reader, alternative? entry.1 = some reader ∧ reader s entry.2.tree = .ok k

/-- The content is read back if it is in the format in which it is written. -/
theorem Restores.of_format {alternative? : String → Option (Reader κ)} {format : Format α} {a : α}
    {key : String} {k : κ} {reader : Reader κ} (h : format.Restores limit a)
    (hreader : alternative? key = some reader)
    (hread : ∀ s tree, format.read s tree = .ok a → reader s tree = .ok k) :
    Restores limit alternative? (key, format.write a) k :=
  ⟨h.readable, fun s hs => ⟨reader, hreader, hread s _ (h.read_eq s hs)⟩⟩

/-- A choice is restored one level further out than the content of its alternative. -/
theorem Restores.choice {known : List String} {alternative? : String → Option (Reader κ)}
    {write : κ → Value} {entry : String × Value} {k : κ}
    (h : Restores limit alternative? entry k) (hwrite : write k = .object [entry])
    (hknown : entry.1 ∈ known) :
    Format.Restores (limit + 1) ⟨readAlternative known alternative?, write⟩ k := by
  refine .of_write hwrite ⟨h.readable, trivial⟩ nofun fun s hs => ?_
  obtain ⟨room, henter, hfits⟩ := hs.enter_object
  obtain ⟨reader, hreader, hread⟩ := h.read_eq _ (hfits entry List.mem_cons_self s.kept)
  refine (read_member hknown henter).trans ?_
  simp only [hreader]
  exact hread

end Choice

theorem Format.names_restores {names : List (String × α)} {name : α → String} {a : α}
    (h : names.lookup (name a) = some a) : (Format.names names name).Restores limit a := by
  obtain ⟨before, after, hnames, -⟩ := List.lookup_eq_some_iff.mp h
  have hmem : name a ∈ names.map (·.1) :=
    List.mem_map_of_mem (a := (name a, a)) (hnames ▸ List.mem_append_right _ List.mem_cons_self)
  refine ⟨trivial, nofun, fun s _ => (Choice.read_name hmem s).trans ?_⟩
  simp only [h]
  rfl

/-! ### Tagged records -/

namespace Tagged

variable {alternative? : String → Option (Reader κ)} {entry : String × Value} {k : κ}

theorem write_readable (name : String) (hentry : entry.2.Readable) :
    (write name entry.1 entry.2).Readable := ⟨trivial, hentry, trivial⟩

/-- A name and an alternative are read back where the name is not the key of an alternative. -/
theorem read_write (record choice : String) (hname : alternative? "name" = none)
    (h : Choice.Restores limit alternative? entry k) (name : String) {s : Setting}
    (hs : s.Fits (limit + 1) (write name entry.1 entry.2)) :
    read record choice alternative? s (write name entry.1 entry.2).tree = .ok (name, k) := by
  obtain ⟨room, henter, hfits⟩ := hs.enter_object
  have hcontent : ∀ kept, Setting.Fits limit ⟨kept, room⟩ entry.2 :=
    hfits (entry.1, entry.2) (by simp)
  obtain ⟨reader, hreader, hread⟩ := h.read_eq _ (hcontent true)
  have hkey : entry.1 ≠ "name" := by
    intro heq
    rw [heq, hname] at hreader
    cases hreader
  have hfault : entry.2.tree.readFault? room = none :=
    Value.readFault?_tree h.readable (hcontent s.kept).depth_le
  have htrees : Value.memberTrees [("name", .string name), (entry.1, entry.2)] =
      [(some "name", .string (some name)), (some entry.1, entry.2.tree)] := rfl
  have hmembers : readMembers { s with room } none
      (Value.memberTrees [("name", .string name), (entry.1, entry.2)]) = .ok (some name) := by
    rw [htrees]
    -- What is not yet kept is checked for faults in full before it is.
    cases hkept : s.kept <;>
      simp [readMembers, Format.string, hkey, hfault, unlessFault, bind, Except.bind]
  have hchoose : choose? alternative?
      (Value.memberTrees [("name", .string name), (entry.1, entry.2)]) =
        some (reader, entry.2.tree) := by
    rw [htrees]
    simp only [choose?, hname, hreader]
  refine bind_eq_ok.mpr ⟨_, henter, bind_eq_ok.mpr ⟨_, hmembers, bind_eq_ok.mpr ⟨(), rfl, ?_⟩⟩⟩
  rw [hchoose]
  exact bind_eq_ok.mpr ⟨k, hread, rfl⟩

/-- Tagged records inside each other, which are read up to a depth, are restored where there is room
for that depth at most. -/
theorem restores_to {kind? : Nat → String → Option (Reader κ)} {readTo : Nat → Reader α}
    {write : α → Value} {mk : String → κ → α} {record choice name : String}
    {entry : Nat → String × Value} {most : Nat}
    (hread : ∀ depth s tree, readTo (depth + 1) s tree = do
      let (name, k) ← read record choice (kind? depth) s tree
      return mk name k)
    (hwrite : ∀ depth, write (mk name k) = Tagged.write name (entry depth).1 (entry depth).2)
    (hname : ∀ depth, kind? depth "name" = none)
    (hentry : ∀ depth ≤ most, Choice.Restores depth (kind? depth) (entry depth) k)
    {depth : Nat} (hdepth : depth ≤ most + 1) :
    Format.Restores depth ⟨readTo depth, write⟩ (mk name k) := by
  have hreadable : (Tagged.write name (entry (depth - 1)).1 (entry (depth - 1)).2).Readable :=
    write_readable name (hentry (depth - 1) (Nat.sub_le_of_le_add hdepth)).readable
  refine .of_write (hwrite (depth - 1)) hreadable nofun fun s hs => ?_
  -- The record itself needs room, so the depth is that of what is inside it and one more.
  obtain ⟨depth, rfl⟩ := Nat.exists_eq_add_one.mpr hs.limit_pos
  have hk := read_write record choice (hname depth)
    (hentry depth (Nat.le_of_succ_le_succ hdepth)) name hs
  exact (hread depth s _).trans (bind_eq_ok.mpr ⟨(name, k), hk, rfl⟩)

end Tagged

end ProviderCode
