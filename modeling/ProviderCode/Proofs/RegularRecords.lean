import ProviderCode.Proofs.RegularFormats

/-!
# Regular records

The members of a record may be read in any order, since the fields they fill are independent of each
other. What is written of a field is bounded by what was read for it, or is a list of the blank.
-/

namespace ProviderCode

open Json (Ending Tree Value)
open List (Forall₂)

variable {σ τ α : Type} {p : Position}

/-! ### Members in another order -/

namespace Record

variable {r : Record σ} {s : Setting} {members members' : List (Option String × Tree)}
  {seen given seen' : List String} {a b : σ}

/-- The order of the keys that are given does not matter. -/
theorem Reads.congr_seen (hread : Reads r s seen a members given b) : ∀ {seen' : List String},
    seen.Perm seen' → ∃ given', Reads r s seen' a members given' b ∧ given.Perm given' := by
  induction hread with
  | nil => exact fun hseen => ⟨_, .nil, hseen⟩
  | skip hfind hskip _ ih =>
    intro seen' hseen
    obtain ⟨given', hrest, hgiven⟩ := ih hseen
    exact ⟨given', .skip hfind hskip hrest, hgiven⟩
  | fill hfind hnew hfill _ ih =>
    intro seen' hseen
    obtain ⟨given', hrest, hgiven⟩ := ih (hseen.cons _)
    exact ⟨given', .fill hfind (mt hseen.mem_iff.mpr hnew) hfill hrest, hgiven⟩

/-- Two members that follow each other may change places: of two fields each is filled as before, since
they are different and independent. -/
theorem Reads.swap (h : r.Orderly) {member member' : Option String × Tree}
    (hread : Reads r s seen a (member :: member' :: members) given b) :
    ∃ given', Reads r s seen a (member' :: member :: members) given' b ∧ given.Perm given' := by
  cases hread with
  | skip hfind hskip rest =>
    cases rest with
    | skip hfind' hskip' rest => exact ⟨given, .skip hfind' hskip' (.skip hfind hskip rest), .refl _⟩
    | fill hfind' hnew' hfill' rest =>
      exact ⟨given, .fill hfind' hnew' hfill' (.skip hfind hskip rest), .refl _⟩
  | @fill _ _ _ _ key _ _ _ fill hfind hnew hfill rest =>
    cases rest with
    | skip hfind' hskip' rest =>
      exact ⟨given, .skip hfind' hskip' (.fill hfind hnew hfill rest), .refl _⟩
    | @fill _ _ _ _ key' _ _ _ fill' hfind' hnew' hfill' rest =>
      obtain ⟨hne, hfresh⟩ := not_or.mp (mt List.mem_cons.mpr hnew')
      obtain ⟨hfield, rfl⟩ := find?_eq_some hfind
      obtain ⟨hfield', rfl⟩ := find?_eq_some hfind'
      have hcommute : fill' (fill a) = fill (fill' a) :=
        (h.independent_of_ne hfield' hfield hne).commute hfill' hfill a
      rw [hcommute] at rest
      obtain ⟨given', hrest, hgiven⟩ := rest.congr_seen (.swap ..)
      refine ⟨given', .fill hfind' hfresh hfill' (.fill hfind ?_ hfill hrest), hgiven⟩
      exact mt List.mem_cons.mp (not_or.mpr ⟨Ne.symm hne, hnew⟩)

/-- The same is read of members in any order, up to the order of the keys that are given. -/
theorem Reads.perm (h : r.Orderly) (hperm : members.Perm members') :
    ∀ {seen given : List String} {a : σ}, Reads r s seen a members given b →
      ∃ given', Reads r s seen a members' given' b ∧ given.Perm given' := by
  induction hperm with
  | nil => exact fun hread => ⟨_, hread, .refl _⟩
  | cons _ _ ih =>
    intro seen given a hread
    cases hread with
    | skip hfind hskip rest =>
      obtain ⟨given', hrest, hgiven⟩ := ih rest
      exact ⟨given', .skip hfind hskip hrest, hgiven⟩
    | fill hfind hnew hfill rest =>
      obtain ⟨given', hrest, hgiven⟩ := ih rest
      exact ⟨given', .fill hfind hnew hfill hrest, hgiven⟩
  | swap => exact fun hread => hread.swap h
  | trans _ _ ih ih' =>
    intro seen given a hread
    obtain ⟨given', hread', hgiven⟩ := ih hread
    obtain ⟨given'', hread'', hgiven'⟩ := ih' hread'
    exact ⟨given'', hread'', hgiven.trans hgiven'⟩

theorem missing?_perm {given' : List String} (hgiven : given.Perm given') :
    r.missing? given = r.missing? given' := by
  simp only [missing?, hgiven.contains_eq]

end Record

/-! ### Regular fields -/

/-- Whether a field does not depend on the order of members, and what it writes is not much deeper
than what it was read from, or is no more than an empty list if it was not given. -/
structure Field.Regular (p : Position) (blank : σ) (field : Field σ) : Prop where
  unordered : ∀ {s : Setting} {tree tree' : Tree}, tree.Reordered tree' → tree.OneKind p →
    Agree (field.fill s tree) (field.fill s tree')
  written : ∀ {s : Setting} {tree : Tree} {fill : σ → σ} {a : σ} {value : Value},
    field.fill s tree = .ok fill → field.write (fill a) = some value → value.depth ≤ s.bound tree
  absent : field.required = false → ∀ value, field.write blank = some value → value.depth ≤ 1

namespace Field.Regular

variable {key : String} {format : Format α} {blank : σ}

theorem mandatory {get : σ → α} {set : α → σ → σ} (h : format.Regular p)
    (hget : ∀ {v a}, get (set v a) = v) :
    (Field.mandatory key format get set).Regular p blank where
  unordered hreordered hkind := (h.unordered hreordered hkind).map set
  written {s tree fill a value} hfill hwrite := by
    obtain ⟨v, hv, rfl⟩ := map_eq_ok.mp hfill
    obtain rfl : format.write (get (set v a)) = value := Option.some.inj hwrite
    rw [hget]
    exact h.written hv
  absent := nofun

theorem defaulted {get : σ → α} {set : α → σ → σ} (h : format.Regular p)
    (hblank : (format.write (get blank)).depth ≤ 1)
    (hget : ∀ {v a}, get (set v a) = v) :
    (Field.defaulted key format get set).Regular p blank where
  unordered hreordered hkind := (h.unordered hreordered hkind).map set
  written {s tree fill a value} hfill hwrite := by
    obtain ⟨v, hv, rfl⟩ := map_eq_ok.mp hfill
    obtain rfl : format.write (get (set v a)) = value := Option.some.inj hwrite
    rw [hget]
    exact h.written hv
  absent _ value hwrite := by
    obtain rfl : format.write (get blank) = value := Option.some.inj hwrite
    exact hblank

theorem optional {get : σ → Option α} {set : Option α → σ → σ} (h : format.Regular p)
    (hblank : get blank = none) (hget : ∀ {v a}, get (set v a) = v) :
    (Field.optional key format get set).Regular p blank where
  unordered hreordered hkind := (h.option hreordered hkind).map set
  written {s tree fill a value} hfill hwrite := by
    obtain ⟨v, hv, rfl⟩ := map_eq_ok.mp hfill
    obtain ⟨x, hx, rfl⟩ := Option.map_eq_some_iff.mp hwrite
    rw [hget] at hx
    subst hx
    obtain ⟨-, hnone⟩ | hsome := Format.option_read_eq_ok hv
    · cases hnone
    · obtain ⟨_, hread, ⟨⟩⟩ := map_eq_ok.mp hsome
      exact h.written hread
  absent _ value hwrite := by
    obtain ⟨x, hx, -⟩ := Option.map_eq_some_iff.mp hwrite
    rw [hblank] at hx
    cases hx

theorem list {get : σ → List α} {set : List α → σ → σ} (h : format.list.Regular p)
    (hblank : get blank = []) (hget : ∀ {v a}, get (set v a) = v) :
    (Field.list key format get set).Regular p blank where
  unordered hreordered hkind := (h.unordered hreordered hkind).map set
  written {s tree fill a value} hfill hwrite := by
    obtain ⟨v, hv, rfl⟩ := map_eq_ok.mp hfill
    obtain ⟨-, hsome⟩ := Option.ite_none_left_eq_some.mp hwrite
    obtain rfl : format.list.write (get (set v a)) = value := Option.some.inj hsome
    rw [hget]
    exact h.written hv
  absent _ value hwrite := by
    obtain ⟨hne, -⟩ := Option.ite_none_left_eq_some.mp hwrite
    rw [hblank] at hne
    exact absurd rfl hne

theorem within {field : Field σ} {get : τ → σ} {modify : (σ → σ) → τ → τ} {blank : τ}
    (h : field.Regular p (get blank))
    (hget : ∀ {f r}, get (modify f r) = f (get r)) :
    (field.within get modify).Regular p blank where
  unordered hreordered hkind := (h.unordered hreordered hkind).map modify
  written {s tree fill a value} hfill hwrite := by
    obtain ⟨f, hf, rfl⟩ := map_eq_ok.mp hfill
    simp only [Field.within, hget] at hwrite
    exact h.written hf hwrite
  absent := h.absent

end Field.Regular

/-- Whether all fields are regular where the record at a position has them. -/
inductive Field.AllRegular (p : Position) (blank : σ) : List (Field σ) → Prop
  | nil : AllRegular p blank []
  | cons {field : Field σ} {fields : List (Field σ)}
      (head : field.Regular (p.member field.key) blank) (tail : AllRegular p blank fields) :
      AllRegular p blank (field :: fields)

namespace Field.AllRegular

variable {blank : σ} {fields more : List (Field σ)}

theorem mem (h : AllRegular p blank fields) :
    ∀ field ∈ fields, field.Regular (p.member field.key) blank := by
  induction h with
  | nil => exact fun _ h => absurd h List.not_mem_nil
  | cons head _ ih => exact List.forall_mem_cons.mpr ⟨head, ih⟩

theorem append (h : AllRegular p blank fields) (hmore : AllRegular p blank more) :
    AllRegular p blank (fields ++ more) := by
  induction h with
  | nil => exact hmore
  | cons head _ ih => exact .cons head ih

/-- Fields of a part are regular in the whole. -/
theorem within {get : τ → σ} {modify : (σ → σ) → τ → τ} {whole : τ} (h : AllRegular p blank fields)
    (hblank : get whole = blank) (hget : ∀ {f r}, get (modify f r) = f (get r)) :
    AllRegular p whole (fields.map (·.within get modify)) := by
  subst hblank
  induction h with
  | nil => exact .nil
  | cons head _ ih => exact .cons (head.within hget) ih

/-- Fields of a part that is paired with something else. -/
theorem paired {rest : τ} (h : AllRegular p blank fields) :
    AllRegular p (blank, rest) (fields.map Leaf.paired) :=
  h.within rfl rfl

end Field.AllRegular

/-! ### Regular records -/

namespace Record

variable {r : Record σ} {s : Setting} {a b : σ}

/-- Members with other orders inside their values are read alike. -/
theorem readMembers_moved {members moved : List (Option String × Tree)}
    (h : Forall₂ (Json.UnderKey Tree.Reordered) members moved)
    (hfields : ∀ field ∈ r.fields, field.Regular (p.member field.key) r.blank)
    (hkind : membersOneKind members p) : ∀ (seen : List String) (a : σ),
    Agree (r.readMembers s seen a members) (r.readMembers s seen a moved) := by
  induction h with
  | nil => exact fun _ _ => .refl _
  | cons hmember _ ih =>
    obtain ⟨hpart, hparts⟩ := hkind
    cases hmember with
    | @mk key tree tree' htree =>
      intro seen a
      cases key with
      | none => exact .of_errors nofun nofun
      | some key =>
        rw [readMembers, readMembers]
        cases hfind : r.fields.find? (·.key == key) with
        | none =>
          refine Agree.bind (fun u => ?_) fun _ => ih hparts seen a
          rw [unlessFault_eq_ok, unlessFault_eq_ok, htree.skipFault?_eq_none_iff]
        | some field =>
          obtain ⟨hfield, rfl⟩ := find?_eq_some hfind
          dsimp only
          split
          · refine .of_errors ?_ ?_ <;> rintro _ ⟨⟩
          · exact ((hfields field hfield).unordered htree hpart).bind fun fill => ih hparts _ _

/-- Items with other orders inside them are read alike. -/
theorem readItems_moved {items items' : List Tree} {blank : σ}
    (h : Forall₂ Tree.Reordered items items') : ∀ {position : Nat → Position}
    {fields left : List (Field σ)} {a : σ}, itemsOneKind items position →
      (∀ (i : Nat) (field : Field σ), fields[i]? = some field → field.Regular (position i) blank) →
      (readItems s fields a items = .ok (left, [], b) ↔
        readItems s fields a items' = .ok (left, [], b)) := by
  induction h with
  | nil => exact fun _ _ => Iff.rfl
  | cons htree _ ih =>
    intro position fields left a hkind hfields
    obtain ⟨hitem, hitems⟩ := hkind
    cases fields with
    | nil => exact iff_of_false nofun nofun
    | cons field fields =>
      have hfield := (hfields 0 field rfl).unordered (s := s) htree hitem
      rw [readItems, readItems, bind_eq_ok, bind_eq_ok]
      refine exists_congr fun fill => and_congr (hfield fill) ?_
      exact ih hitems fun i => hfields (i + 1)

/-- A record of independent regular fields is regular. -/
theorem regular (h : r.Orderly) (hfields : Field.AllRegular p r.blank r.fields)
    (hitem : ∀ i, p.item i = ((r.fields.map (·.key))[i]?.map p.member).getD .other) :
    r.format.Regular p where
  unordered {s tree tree'} hreordered hkind := by
    intro a
    change r.read s tree = .ok a ↔ r.read s tree' = .ok a
    cases tree with
    | object members ending =>
      obtain ⟨moved, members', rfl, hmembers, hperm⟩ := hreordered.of_object
      rw [read_object_eq_ok, read_object_eq_ok]
      refine and_congr_right fun _ => exists_congr fun inner => ?_
      constructor
      · rintro ⟨given, henter, hread, hmissing⟩
        have hread' := (readMembers_moved hmembers hfields.mem hkind.2 [] r.blank _).mp hread
        obtain ⟨given', hreads, hgiven⟩ := (readMembers_eq_ok.mp hread').perm h hperm
        exact ⟨given', henter, readMembers_eq_ok.mpr hreads, missing?_perm hgiven ▸ hmissing⟩
      · rintro ⟨given, henter, hread, hmissing⟩
        obtain ⟨given', hreads, hgiven⟩ := (readMembers_eq_ok.mp hread).perm h hperm.symm
        have hread' := (readMembers_moved hmembers hfields.mem hkind.2 [] r.blank _).mpr
          (readMembers_eq_ok.mpr hreads)
        exact ⟨given', henter, hread', missing?_perm hgiven ▸ hmissing⟩
    | array items ending =>
      obtain ⟨items', rfl, hitems⟩ := hreordered.of_array
      have hregular : ∀ (i : Nat) (field : Field σ), r.fields[i]? = some field →
          field.Regular (p.item i) r.blank := by
        intro i field hfield
        have hkey : (r.fields.map (·.key))[i]? = some field.key := by
          rw [List.getElem?_map, hfield]
          rfl
        rw [Position.item_eq hitem hkey]
        exact hfields.mem field (List.mem_of_getElem? hfield)
      rw [read_array_eq_ok, read_array_eq_ok]
      exact and_congr_right fun _ => exists_congr fun inner => exists_congr fun left =>
        and_congr_right fun _ => and_congr_left fun _ => readItems_moved hitems hkind hregular
    | _ => rw [hreordered.of_single rfl]
  written {s tree a} hread := by
    obtain ⟨hcontainer, inner, henter, hread⟩ := read_fields h hread
    have hpos := Setting.one_lt_bound henter hcontainer
    have hle : Value.membersDepth (written r.fields a) ≤ s.bound tree - 1 := by
      refine Value.membersDepth_le_iff.mpr fun member hmember => ?_
      obtain ⟨field, hfield, hwrite⟩ := mem_written hmember
      have hregular := hfields.mem field hfield
      rcases hread field hfield with ⟨hrequired, hblank⟩ | ⟨part, hpart, fill, c, hfill, hsame⟩
      · have hdepth := hregular.absent hrequired _ (hblank ▸ hwrite)
        omega
      · have hdepth := hregular.written hfill (hsame ▸ hwrite)
        have hlt := Setting.bound_lt henter hpart
        omega
    change Value.membersDepth (written r.fields a) + 1 ≤ s.bound tree
    omega

/-- A record without named values is regular anywhere. -/
theorem regular_anywhere (h : r.Orderly) (hfields : Field.AllRegular .other r.blank r.fields) :
    r.format.Regular p :=
  (regular h hfields (Position.item_other _)).anywhere

end Record

/-- A list without named values is regular anywhere. -/
theorem Format.Regular.list_anywhere {format : Format α} (h : format.Regular .other) :
    format.list.Regular p :=
  (Format.Regular.list h fun _ => rfl : format.list.Regular .other).anywhere

end ProviderCode
