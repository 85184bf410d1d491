import Mathlib.Data.List.Pairwise
import ProviderCode.Proofs.FirstKind
import ProviderCode.Proofs.RecordRoundTrip

/-!
# Fields of a record

Each field of a record is kept in a part of its own, so reading one field does not touch what another
one writes, and two fields may be read in either order.  What is read of a record is then known field
by field: a field is as it was read, or as it is in the blank if it was not given.
-/

namespace ProviderCode

open Json (Tree Ending Value)

variable {σ τ α β γ : Type}

/-! ### Parts of a record -/

/-- The part of a record in which a field is kept: reading the field sets this part, and writing it
depends on this part only. -/
class Field.Part (field : Field σ) where
  {α : Type}
  {β : Type}
  get : σ → α
  set : β → σ → σ
  fill_eq : ∀ {s : Setting} {tree : Tree} {fill : σ → σ}, field.fill s tree = .ok fill →
    ∃ v, fill = set v
  write_eq : ∀ {a b : σ}, get a = get b → field.write a = field.write b

namespace Field.Part

variable {key : String} {format : Format α}

instance mandatory {get : σ → α} {set : α → σ → σ} : (mandatory key format get set).Part where
  get := get
  set := set
  fill_eq h := by
    obtain ⟨v, -, rfl⟩ := map_eq_ok.mp h
    exact ⟨v, rfl⟩
  write_eq h := by simp only [Field.mandatory, h]

instance defaulted {get : σ → α} {set : α → σ → σ} : (defaulted key format get set).Part where
  get := get
  set := set
  fill_eq h := by
    obtain ⟨v, -, rfl⟩ := map_eq_ok.mp h
    exact ⟨v, rfl⟩
  write_eq h := by simp only [Field.defaulted, h]

instance optional {get : σ → Option α} {set : Option α → σ → σ} :
    (optional key format get set).Part where
  get := get
  set := set
  fill_eq h := by
    obtain ⟨v, -, rfl⟩ := map_eq_ok.mp h
    exact ⟨v, rfl⟩
  write_eq h := by simp only [Field.optional, h]

instance list {get : σ → List α} {set : List α → σ → σ} : (list key format get set).Part where
  get := get
  set := set
  fill_eq h := by
    obtain ⟨v, -, rfl⟩ := map_eq_ok.mp h
    exact ⟨v, rfl⟩
  write_eq h := by simp only [Field.list, h]

instance within {field : Field σ} [part : field.Part] {get : τ → σ} {modify : (σ → σ) → τ → τ} :
    (field.within get modify).Part where
  get r := part.get (get r)
  set v := modify (part.set v)
  fill_eq h := by
    obtain ⟨fill, hfill, rfl⟩ := map_eq_ok.mp h
    obtain ⟨v, rfl⟩ := part.fill_eq hfill
    exact ⟨v, rfl⟩
  write_eq h := part.write_eq h

end Field.Part

/-! ### Independent fields -/

/-- Whether two fields can be read in either order, and what one reads does not change what the other
writes. -/
structure Field.Independent (field other : Field σ) : Prop where
  commute : ∀ {s s' : Setting} {tree tree' : Tree} {fill fill' : σ → σ},
    field.fill s tree = .ok fill → other.fill s' tree' = .ok fill' →
      ∀ a, fill (fill' a) = fill' (fill a)
  write_other : ∀ {s : Setting} {tree : Tree} {fill : σ → σ},
    other.fill s tree = .ok fill → ∀ a, field.write (fill a) = field.write a
  other_write : ∀ {s : Setting} {tree : Tree} {fill : σ → σ},
    field.fill s tree = .ok fill → ∀ a, other.write (fill a) = other.write a

namespace Field.Independent

variable {field other : Field σ}

theorem symm (h : field.Independent other) : other.Independent field where
  commute h' h'' a := (h.commute h'' h' a).symm
  write_other := h.other_write
  other_write := h.write_other

instance : Std.Symm (@Field.Independent σ) := ⟨fun _ _ h => h.symm⟩

/-- Fields that are kept in different parts are independent. -/
theorem of_parts [part : field.Part] [part' : other.Part]
    (hset : ∀ {v w a}, part.set v (part'.set w a) = part'.set w (part.set v a))
    (hget : ∀ {w a}, part.get (part'.set w a) = part.get a)
    (hget' : ∀ {v a}, part'.get (part.set v a) = part'.get a) : field.Independent other where
  commute hfill hfill' a := by
    obtain ⟨v, rfl⟩ := part.fill_eq hfill
    obtain ⟨w, rfl⟩ := part'.fill_eq hfill'
    exact hset
  write_other hfill a := by
    obtain ⟨w, rfl⟩ := part'.fill_eq hfill
    exact part.write_eq hget
  other_write hfill a := by
    obtain ⟨v, rfl⟩ := part.fill_eq hfill
    exact part'.write_eq hget'

/-- Independent fields of a part are independent in the whole. -/
theorem within {get : τ → σ} {modify : (σ → σ) → τ → τ} (h : field.Independent other)
    (hget : ∀ f r, get (modify f r) = f (get r))
    (hmodify : ∀ f g r, modify f (modify g r) = modify (f ∘ g) r) :
    (field.within get modify).Independent (other.within get modify) where
  commute hfill hfill' a := by
    obtain ⟨f, hf, rfl⟩ := map_eq_ok.mp hfill
    obtain ⟨g, hg, rfl⟩ := map_eq_ok.mp hfill'
    rw [hmodify, hmodify]
    exact congrArg (modify · a) (funext (h.commute hf hg))
  write_other hfill a := by
    obtain ⟨g, hg, rfl⟩ := map_eq_ok.mp hfill
    simp only [Field.within, hget]
    exact h.write_other hg (get a)
  other_write hfill a := by
    obtain ⟨f, hf, rfl⟩ := map_eq_ok.mp hfill
    simp only [Field.within, hget]
    exact h.other_write hf (get a)

end Field.Independent

/-- A record of which the fields have different keys and are independent. -/
structure Record.Orderly (r : Record σ) : Prop where
  keys : (r.fields.map (·.key)).Nodup
  independent : r.fields.Pairwise Field.Independent

theorem Record.Orderly.independent_of_ne {r : Record σ} (h : r.Orderly) {field other : Field σ}
    (hfield : field ∈ r.fields) (hother : other ∈ r.fields) (hne : field.key ≠ other.key) :
    field.Independent other := by
  have hdifferent : field ≠ other := fun heq => hne (congrArg Field.key heq)
  exact h.independent.forall hfield hother hdifferent

/-! ### What is read of a record -/

namespace Json.Tree

/-- The values inside an array or object. -/
def parts : Tree → List Tree
  | .array items _ => items
  | .object members _ => members.map (·.2)
  | _ => []

end Json.Tree

namespace Record

variable {r : Record σ} {s : Setting} {a b : σ}

/-- What a field writes of a record is what was read of a value for it. -/
def ReadFrom (s : Setting) (parts : List Tree) (field : Field σ) (a : σ) : Prop :=
  ∃ part ∈ parts, ∃ fill c, field.fill s part = .ok fill ∧ field.write a = field.write (fill c)

theorem ReadFrom.mono {parts more : List Tree} {field : Field σ} (h : ReadFrom s parts field a)
    (hsub : parts ⊆ more) (hwrite : field.write b = field.write a) : ReadFrom s more field b := by
  obtain ⟨part, hpart, fill, c, hfill, ha⟩ := h
  exact ⟨part, hsub hpart, fill, c, hfill, hwrite.trans ha⟩

theorem find?_eq_some {fields : List (Field σ)} {key : String} {field : Field σ}
    (h : fields.find? (·.key == key) = some field) : field ∈ fields ∧ field.key = key :=
  ⟨List.mem_of_find?_eq_some h, by simpa using List.find?_some h⟩

/-- How members are read into a record, one after the other: from the keys that are given and the
record so far to those in the end. -/
inductive Reads (r : Record σ) (s : Setting) :
    List String → σ → List (Option String × Tree) → List String → σ → Prop
  | nil {seen : List String} {a : σ} : Reads r s seen a [] seen a
  /-- A key that is not a field is passed over. -/
  | skip {seen given : List String} {a b : σ} {key : String} {tree : Tree}
      {members : List (Option String × Tree)} (hfind : r.fields.find? (·.key == key) = none)
      (hskip : tree.skipFault? = none) (rest : Reads r s seen a members given b) :
      Reads r s seen a ((some key, tree) :: members) given b
  | fill {seen given : List String} {a b : σ} {key : String} {tree : Tree}
      {members : List (Option String × Tree)} {field : Field σ} {fill : σ → σ}
      (hfind : r.fields.find? (·.key == key) = some field) (hseen : key ∉ seen)
      (hfill : field.fill s tree = .ok fill)
      (rest : Reads r s (key :: seen) (fill a) members given b) :
      Reads r s seen a ((some key, tree) :: members) given b

theorem readMembers_eq_ok : ∀ {members : List (Option String × Tree)} {seen given : List String}
    {a : σ}, r.readMembers s seen a members = .ok (given, b) ↔ Reads r s seen a members given b
  | [], seen, given, a => by
    refine ⟨fun h => ?_, fun h => by cases h; rfl⟩
    cases h
    exact .nil
  | (none, _) :: _, _, _, _ => iff_of_false nofun nofun
  | (some key, tree) :: members, seen, given, a => by
    rw [readMembers]
    cases hfind : r.fields.find? (·.key == key) with
    | none =>
      dsimp only
      rw [bind_eq_ok]
      simp only [unlessFault_eq_ok, readMembers_eq_ok]
      constructor
      · rintro ⟨_, hskip, hrest⟩
        exact .skip hfind hskip hrest
      · rintro (_ | ⟨_, hskip, hrest⟩ | ⟨hfound, -, -, -⟩)
        · exact ⟨(), hskip, hrest⟩
        · rw [hfind] at hfound
          cases hfound
    | some field =>
      dsimp only
      by_cases hseen : key ∈ seen
      · rw [if_pos (List.contains_iff_mem.mpr hseen)]
        refine iff_of_false (fun hread => ?_) ?_
        · cases hread
        · rintro (_ | ⟨hfound, -, -⟩ | ⟨-, hnew, -, -⟩)
          · rw [hfind] at hfound
            cases hfound
          · exact hnew hseen
      · rw [if_neg (by simpa using hseen)]
        refine bind_eq_ok.trans ?_
        simp only [readMembers_eq_ok]
        constructor
        · rintro ⟨fill, hfill, hrest⟩
          exact .fill hfind hseen hfill hrest
        · rintro (_ | ⟨hfound, -, -⟩ | ⟨hfound, -, hfill, hrest⟩)
          · rw [hfind] at hfound
            cases hfound
          · cases hfind.symm.trans hfound
            exact ⟨_, hfill, hrest⟩

/-- Every field writes what it wrote before the members were read, or what was read for it. -/
theorem Reads.fields (h : r.Orderly) {members : List (Option String × Tree)}
    {seen given : List String} (hread : Reads r s seen a members given b) :
    ∀ field ∈ r.fields, (field.write b = field.write a ∧ (field.key ∈ given → field.key ∈ seen)) ∨
      ReadFrom s (members.map (·.2)) field b := by
  induction hread with
  | nil => exact fun _ _ => .inl ⟨rfl, id⟩
  | skip _ _ _ ih =>
    exact fun field hfield =>
      (ih field hfield).imp_right fun hfrom => hfrom.mono (List.subset_cons_self ..) rfl
  | @fill seen given a b key tree members found fill hfind hseen hfill _ ih =>
    intro field hfield
    obtain ⟨hfound, rfl⟩ := find?_eq_some hfind
    rcases ih field hfield with ⟨hwrite, hgiven⟩ | hfrom
    · by_cases hkey : field.key = found.key
      · have heq : field = found := by
          have hself := Record.find?_key h.keys hfield
          rw [hkey, hfind] at hself
          exact (Option.some.inj hself).symm
        subst heq
        exact .inr ⟨tree, List.mem_cons_self, fill, a, hfill, hwrite⟩
      · have hkeep := (h.independent_of_ne hfield hfound hkey).write_other hfill a
        refine .inl ⟨hwrite.trans hkeep, fun hmem => ?_⟩
        exact (List.mem_cons.mp (hgiven hmem)).resolve_left hkey
    · exact .inr (hfrom.mono (List.subset_cons_self ..) rfl)

/-- Every member for a field is read by it. -/
theorem Reads.fills {members : List (Option String × Tree)} {seen given : List String}
    (hread : Reads r s seen a members given b) : ∀ key tree field, (some key, tree) ∈ members →
      r.fields.find? (·.key == key) = some field → ∃ fill, field.fill s tree = .ok fill := by
  induction hread with
  | nil => exact fun _ _ _ hmember => absurd hmember List.not_mem_nil
  | skip hfind _ _ ih =>
    intro key tree field hmember hfound
    rcases List.mem_cons.mp hmember with heq | hmember
    · cases heq
      rw [hfind] at hfound
      cases hfound
    · exact ih key tree field hmember hfound
  | fill hfind _ hfill _ ih =>
    intro key tree field hmember hfound
    rcases List.mem_cons.mp hmember with heq | hmember
    · cases heq
      cases hfind.symm.trans hfound
      exact ⟨_, hfill⟩
    · exact ih key tree field hmember hfound

/-- A field that is independent of those that are read keeps what it writes. -/
theorem readItems_keeps {other : Field σ} : ∀ {fields left : List (Field σ)} {items rest : List Tree}
    {a : σ}, (∀ field ∈ fields, other.Independent field) →
      readItems s fields a items = .ok (left, rest, b) → other.write b = other.write a
  | [], _, _, _, _, _, h => by
    cases h
    rfl
  | _ :: _, _, [], _, _, _, h => by
    cases h
    rfl
  | field :: fields, left, tree :: items, rest, a, hother, h => by
    obtain ⟨fill, hfill, h⟩ := bind_eq_ok.mp h
    obtain ⟨hfirst, hothers⟩ := List.forall_mem_cons.mp hother
    rw [readItems_keeps hothers h]
    exact hfirst.write_other hfill a

/-- Every field writes what was read for it, if an item was left for it. -/
theorem readItems_fields : ∀ {fields left : List (Field σ)} {items rest : List Tree} {a : σ},
    fields.Pairwise Field.Independent → readItems s fields a items = .ok (left, rest, b) →
      ∀ field ∈ fields, (field ∈ left ∧ field.write b = field.write a) ∨ ReadFrom s items field b
  | [], _, _, _, _, _, _ => fun _ hfield => absurd hfield List.not_mem_nil
  | _ :: _, _, [], _, _, _, h => by
    cases h
    exact fun _ hfield => .inl ⟨hfield, rfl⟩
  | first :: fields, left, tree :: items, rest, a, hfields, h => by
    obtain ⟨fill, hfill, h⟩ := bind_eq_ok.mp h
    obtain ⟨hfirst, hrest⟩ := List.pairwise_cons.mp hfields
    refine List.forall_mem_cons.mpr ⟨?_, fun field hfield => ?_⟩
    · exact .inr ⟨tree, List.mem_cons_self, fill, a, hfill, readItems_keeps hfirst h⟩
    · rcases readItems_fields hrest h field hfield with ⟨hleft, hwrite⟩ | hfrom
      · exact .inl ⟨hleft, hwrite.trans ((hfirst field hfield).symm.write_other hfill a)⟩
      · exact .inr (hfrom.mono (List.subset_cons_self ..) rfl)

/-- An object is read as a record if its members are and no field is missing. -/
theorem read_object_eq_ok {members : List (Option String × Tree)} {ending : Ending} :
    r.read s (.object members ending) = .ok a ↔ ending = .closed ∧ ∃ inner given,
      s.enter = .ok inner ∧ r.readMembers inner [] r.blank members = .ok (given, a) ∧
        r.missing? given = none := by
  constructor
  · intro h
    obtain ⟨inner, henter, h⟩ := bind_eq_ok.mp h
    obtain ⟨⟨given, b⟩, hmembers, h⟩ := bind_eq_ok.mp h
    obtain ⟨_, hending, h⟩ := bind_eq_ok.mp h
    cases hmissing : r.missing? given with
    | some field =>
      rw [hmissing] at h
      cases h
    | none =>
      rw [hmissing] at h
      cases h
      exact ⟨Json.Ending.readFault?_eq_none.mp (unlessFault_eq_ok.mp hending), inner, given, henter,
        hmembers, hmissing⟩
  · rintro ⟨rfl, inner, given, henter, hmembers, hmissing⟩
    refine bind_eq_ok.mpr ⟨inner, henter, bind_eq_ok.mpr ⟨_, hmembers, bind_eq_ok.mpr ⟨(), rfl, ?_⟩⟩⟩
    rw [hmissing]
    rfl

/-- An array is read as a record if its items are read by the first fields and the others need not
be given. -/
theorem read_array_eq_ok {items : List Tree} {ending : Ending} :
    r.read s (.array items ending) = .ok a ↔ ending = .closed ∧ ∃ inner left,
      s.enter = .ok inner ∧ readItems inner r.fields r.blank items = .ok (left, [], a) ∧
        ∀ field ∈ left, field.required = false := by
  constructor
  · intro h
    obtain ⟨inner, henter, h⟩ := bind_eq_ok.mp h
    obtain ⟨⟨left, rest, b⟩, hitems, h⟩ := bind_eq_ok.mp h
    cases rest with
    | cons item rest =>
      dsimp only [List.isEmpty_cons] at h
      cases h
    | nil =>
      obtain ⟨_, hending, h⟩ := bind_eq_ok.mp h
      cases hrequired : left.any (·.required) with
      | true =>
        rw [hrequired] at h
        cases h
      | false =>
        rw [hrequired] at h
        cases h
        refine ⟨Json.Ending.readFault?_eq_none.mp (unlessFault_eq_ok.mp hending), inner, left, henter,
          hitems, fun field hfield => ?_⟩
        simpa using List.any_eq_false.mp hrequired field hfield
  · rintro ⟨rfl, inner, left, henter, hitems, hrequired⟩
    have hnone : left.any (·.required) = false :=
      List.any_eq_false.mpr fun field hfield => by simp [hrequired field hfield]
    refine bind_eq_ok.mpr ⟨inner, henter, bind_eq_ok.mpr ⟨_, hitems, bind_eq_ok.mpr ⟨(), rfl, ?_⟩⟩⟩
    dsimp only
    rw [hnone]
    rfl

/-- **Reading a record.**  It is read from an array or object, inside which every field was read, or
need not be given and is as in the blank. -/
theorem read_fields (h : r.Orderly) {tree : Tree} (hread : r.read s tree = .ok a) :
    tree.isContainer ∧ ∃ inner, s.enter = .ok inner ∧ ∀ field ∈ r.fields,
      (field.required = false ∧ field.write a = field.write r.blank) ∨
        ReadFrom inner tree.parts field a := by
  cases tree with
  | object members ending =>
    obtain ⟨-, inner, given, henter, hmembers, hmissing⟩ := read_object_eq_ok.mp hread
    have hreads := readMembers_eq_ok.mp hmembers
    refine ⟨rfl, inner, henter, fun field hfield => ?_⟩
    refine (hreads.fields h field hfield).imp_left fun ⟨hwrite, hgiven⟩ => ⟨?_, hwrite⟩
    have hpresent := List.find?_eq_none.mp hmissing field hfield
    cases hrequired : field.required with
    | false => rfl
    | true =>
      have hmem : field.key ∈ given := by simpa [hrequired] using hpresent
      exact absurd (hgiven hmem) List.not_mem_nil
  | array items ending =>
    obtain ⟨-, inner, left, henter, hitems, hrequired⟩ := read_array_eq_ok.mp hread
    refine ⟨rfl, inner, henter, fun field hfield => ?_⟩
    refine (readItems_fields h.independent hitems field hfield).imp_left fun ⟨hleft, hwrite⟩ => ?_
    exact ⟨hrequired field hleft, hwrite⟩
  | _ => cases hread

end Record

end ProviderCode
