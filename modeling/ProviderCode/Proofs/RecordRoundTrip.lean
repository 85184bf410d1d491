import ProviderCode.Format.Record
import ProviderCode.Proofs.FormatRoundTrip

/-!
# Reading a written record

A record is read into its blank, one field after the other. `Field.Refills` says which record a field
turns into which one when it is read back; the fields of a record, chained, have to lead from the
blank to the record that was written. So a field that is left out when it is written has to find its
value in the blank.
-/

namespace ProviderCode

open Json (Tree Value)
open List (Forall₂)

variable {σ τ α : Type} {limit : Nat}

/-! ### Fields -/

/-- What reading the field that was written for `a` makes of `b`. -/
structure Field.Refills (limit : Nat) (field : Field σ) (a b c : σ) : Prop where
  absent : field.write a = none → field.required = false ∧ b = c
  present : ∀ value, field.write a = some value → value.Readable ∧
    ∀ s : Setting, s.Fits limit value → ∃ fill, field.fill s value.tree = .ok fill ∧ fill b = c

namespace Field.Refills

variable {key : String} {format : Format α} {a b c : σ}

/-- A field that is left out changes nothing. -/
theorem omitted {field : Field σ} (hwrite : field.write a = none) (hrequired : field.required = false) :
    field.Refills limit a b b where
  absent _ := ⟨hrequired, rfl⟩
  present value h := by
    rw [hwrite] at h
    cases h

theorem given {field : Field σ} {value : Value} {fill : σ → σ} (hwrite : field.write a = some value)
    (hreadable : value.Readable)
    (hfill : ∀ s : Setting, s.Fits limit value → field.fill s value.tree = .ok fill) :
    field.Refills limit a b (fill b) where
  absent h := by
    rw [hwrite] at h
    cases h
  present value h := by
    rw [hwrite] at h
    cases h
    exact ⟨hreadable, fun s hs => ⟨fill, hfill s hs, rfl⟩⟩

theorem mandatory {get : σ → α} {set : α → σ → σ} (h : format.Restores limit (get a)) :
    (Field.mandatory key format get set).Refills limit a b (set (get a) b) :=
  given rfl h.readable fun s hs => map_eq_ok.mpr ⟨get a, h.read_eq s hs, rfl⟩

theorem defaulted {get : σ → α} {set : α → σ → σ} (h : format.Restores limit (get a)) :
    (Field.defaulted key format get set).Refills limit a b (set (get a) b) :=
  given rfl h.readable fun s hs => map_eq_ok.mpr ⟨get a, h.read_eq s hs, rfl⟩

/-- A field that is left out if its value is absent, as it has to be in the record read into. -/
theorem optional {get : σ → Option α} {set : Option α → σ → σ}
    (h : ∀ x ∈ get a, format.Restores limit x) (hset : set none b = b) :
    (Field.optional key format get set).Refills limit a b (set (get a) b) := by
  cases hget : get a with
  | none =>
    rw [hset]
    exact omitted (Option.map_eq_none_iff.mpr hget) rfl
  | some x =>
    have hx : format.Restores limit x := h x hget
    exact given (Option.map_eq_some_iff.mpr ⟨x, hget, rfl⟩) hx.readable fun s hs =>
      map_eq_ok.mpr ⟨some x, hx.read_option hs, rfl⟩

/-- A list that is left out if it is empty, as it has to be in the record read into. -/
theorem list {get : σ → List α} {set : List α → σ → σ}
    (h : ∀ x ∈ get a, format.Restores limit x) (hset : set [] b = b) :
    (Field.list key format get set).Refills limit a b (set (get a) b) := by
  have hlist : format.list.Restores limit (get a) := Format.list_restores h
  by_cases hget : get a = []
  · rw [hget, hset]
    exact omitted (if_pos (List.isEmpty_iff.mpr hget)) rfl
  · exact given (if_neg (hget ∘ List.isEmpty_iff.mp)) hlist.readable fun s hs =>
      map_eq_ok.mpr ⟨get a, hlist.read_eq s hs, rfl⟩

/-- A field of a part; what is read of the whole depends on what is read of the part alone. -/
theorem within {field : Field σ} {get : τ → σ} {modify : (σ → σ) → τ → τ} {a b : τ}
    (h : field.Refills limit (get a) (get b) c)
    (hmodify : ∀ fill, modify fill b = modify (fun _ => fill (get b)) b)
    (hsame : modify (fun _ => get b) b = b) :
    (field.within get modify).Refills limit a b (modify (fun _ => c) b) where
  absent hwrite := by
    obtain ⟨hrequired, hb⟩ := h.absent hwrite
    exact ⟨hrequired, by rw [← hb, hsame]⟩
  present value hwrite := by
    obtain ⟨hreadable, hread⟩ := h.present value hwrite
    refine ⟨hreadable, fun s hs => ?_⟩
    obtain ⟨fill, hfill, hc⟩ := hread s hs
    exact ⟨modify fill, map_eq_ok.mpr ⟨fill, hfill, rfl⟩, by rw [hmodify, hc]⟩

end Field.Refills

/-- What reading fields that were written for `a`, one after the other, makes of a record. -/
inductive Field.RefillAll (limit : Nat) (a : σ) : List (Field σ) → σ → σ → Prop
  | nil {b : σ} : RefillAll limit a [] b b
  | cons {field : Field σ} {fields : List (Field σ)} {b c d : σ}
      (head : field.Refills limit a b c) (tail : RefillAll limit a fields c d) :
      RefillAll limit a (field :: fields) b d

namespace Field.RefillAll

variable {a b c d : σ} {fields more : List (Field σ)}

theorem append (h : RefillAll limit a fields b c) (hmore : RefillAll limit a more c d) :
    RefillAll limit a (fields ++ more) b d := by
  induction h with
  | nil => exact hmore
  | cons head _ ih => exact .cons head (ih hmore)

/-- Fields of a part that is paired with something else. -/
theorem fst {rest rest' : τ} (h : RefillAll limit a fields b c) :
    RefillAll limit (a, rest) (fields.map fun field => field.within Prod.fst fun f r => (f r.1, r.2))
      (b, rest') (c, rest') := by
  induction h with
  | nil => exact .nil
  | cons head _ ih => exact .cons (head.within (fun _ => rfl) rfl) ih

/-- What is written of a field of the chain can be read. -/
theorem readable (h : RefillAll limit a fields b c) :
    ∀ field ∈ fields, ∀ value, field.write a = some value → value.Readable := by
  induction h with
  | nil => exact fun _ hfield => absurd hfield List.not_mem_nil
  | cons head _ ih =>
    exact List.forall_mem_cons.mpr ⟨fun value hvalue => (head.present value hvalue).1, ih⟩

end Field.RefillAll

/-- Whether two fields write the same for two records. -/
def Field.WritesSame (a : σ) (b : τ) (field : Field σ) (other : Field τ) : Prop :=
  field.key = other.key ∧ field.write a = other.write b

/-- Fields of a part do not depend on what it is paired with. -/
theorem Field.writesSame_fst {τ' : Type} (a : σ) (rest : τ) (rest' : τ') (fields : List (Field σ)) :
    Forall₂ (WritesSame (a, rest) (a, rest'))
      (fields.map fun field => field.within Prod.fst fun f r => (f r.1, r.2))
      (fields.map fun field => field.within Prod.fst fun f r => (f r.1, r.2)) := by
  rw [List.forall₂_map_left_iff, List.forall₂_map_right_iff, List.forall₂_same]
  exact fun _ _ => ⟨rfl, rfl⟩

/-! ### Records -/

namespace Record

variable {r : Record σ} {a b c : σ} {fields : List (Field σ)}

/-- The members written for some fields. -/
def written (fields : List (Field σ)) (a : σ) : List (String × Value) :=
  fields.filterMap fun field => (field.write a).map (field.key, ·)

theorem mem_written {member : String × Value} (h : member ∈ written fields a) :
    ∃ field ∈ fields, field.write a = some member.2 := by
  obtain ⟨field, hfield, hwrite⟩ := List.mem_filterMap.mp h
  obtain ⟨value, hvalue, rfl⟩ := Option.map_eq_some_iff.mp hwrite
  exact ⟨field, hfield, hvalue⟩

/-- Records of which each field writes the same are written alike. -/
theorem write_congr {r' : Record τ} {b : τ}
    (h : Forall₂ (Field.WritesSame a b) r.fields r'.fields) : r.write a = r'.write b := by
  refine congrArg Value.object ?_
  generalize r.fields = fields, r'.fields = fields' at h
  induction h with
  | nil => rfl
  | cons hfield _ ih =>
    obtain ⟨hkey, hwrite⟩ := hfield
    rw [List.filterMap_cons, List.filterMap_cons, hkey, hwrite, ih]

/-- A field is found under its key if no two fields have one key. -/
theorem find?_key (hkeys : (fields.map (·.key)).Nodup) {field : Field σ} (hfield : field ∈ fields) :
    fields.find? (·.key == field.key) = some field := by
  induction fields with
  | nil => exact absurd hfield List.not_mem_nil
  | cons first fields ih =>
    obtain ⟨hfirst, hrest⟩ := List.nodup_cons.mp hkeys
    rcases List.mem_cons.mp hfield with rfl | hmem
    · exact List.find?_cons_of_pos (beq_self_eq_true _)
    · have hne : first.key ≠ field.key := by
        intro heq
        exact hfirst (List.mem_map.mpr ⟨field, hmem, heq.symm⟩)
      rw [List.find?_cons_of_neg (by simpa using hne)]
      exact ih hrest hmem

theorem written_cons_none {field : Field σ} (h : field.write a = none) :
    written (field :: fields) a = written fields a := by
  simp [written, h]

theorem written_cons_some {field : Field σ} {value : Value} (h : field.write a = some value) :
    written (field :: fields) a = (field.key, value) :: written fields a := by
  simp [written, h]

/-- One step of reading: a field that is not yet given is filled. -/
theorem readMembers_cons {s : Setting} {seen : List String} {field : Field σ} {fill : σ → σ}
    {tree : Tree} {members : List (Option String × Tree)}
    (hfind : r.fields.find? (·.key == field.key) = some field) (hseen : field.key ∉ seen)
    (hfill : field.fill s tree = .ok fill) :
    r.readMembers s seen b ((some field.key, tree) :: members) =
      r.readMembers s (field.key :: seen) (fill b) members := by
  rw [readMembers, hfind]
  simp [hseen, hfill, bind, Except.bind]

/-- Reading the members written for some fields goes along their chain, and sees every field that
has to be given. -/
theorem readMembers_written {s : Setting} (h : Field.RefillAll limit a fields b c)
    (hfind : ∀ field ∈ fields, r.fields.find? (·.key == field.key) = some field)
    (hfits : ∀ member ∈ written fields a, s.Fits limit member.2)
    (hkeys : (fields.map (·.key)).Nodup) : ∀ {seen : List String},
    (∀ field ∈ fields, field.key ∉ seen) →
      ∃ given, r.readMembers s seen b (Value.memberTrees (written fields a)) = .ok (given, c) ∧
        seen ⊆ given ∧ ∀ field ∈ fields, field.required → field.key ∈ given := by
  induction h with
  | nil => exact fun _ => ⟨_, rfl, List.Subset.refl _, fun _ h => absurd h List.not_mem_nil⟩
  | @cons field fields b c d head _ ih =>
    intro seen hseen
    obtain ⟨hfindField, hfindFields⟩ := List.forall_mem_cons.mp hfind
    obtain ⟨hseenField, hseenFields⟩ := List.forall_mem_cons.mp hseen
    obtain ⟨hkeyField, hkeyFields⟩ := List.nodup_cons.mp hkeys
    cases hwrite : field.write a with
    | none =>
      obtain ⟨hrequired, rfl⟩ := head.absent hwrite
      rw [written_cons_none hwrite] at hfits ⊢
      obtain ⟨given, hread, hsub, hgiven⟩ := ih hfindFields hfits hkeyFields hseenFields
      refine ⟨given, hread, hsub, List.forall_mem_cons.mpr ⟨fun h => ?_, hgiven⟩⟩
      rw [hrequired] at h
      cases h
    | some value =>
      rw [written_cons_some hwrite] at hfits ⊢
      obtain ⟨hfitsField, hfitsFields⟩ := List.forall_mem_cons.mp hfits
      obtain ⟨fill, hfill, rfl⟩ := (head.present value hwrite).2 s hfitsField
      have hseenLater : ∀ later ∈ fields, later.key ∉ field.key :: seen := by
        intro later hlater hmem
        rcases List.mem_cons.mp hmem with heq | hmem
        · exact hkeyField (List.mem_map.mpr ⟨later, hlater, heq⟩)
        · exact hseenFields later hlater hmem
      obtain ⟨given, hread, hsub, hgiven⟩ := ih hfindFields hfitsFields hkeyFields hseenLater
      obtain ⟨hgivenField, hseenSub⟩ := List.cons_subset.mp hsub
      refine ⟨given, ?_, hseenSub, List.forall_mem_cons.mpr ⟨fun _ => hgivenField, hgiven⟩⟩
      rw [Value.memberTrees, readMembers_cons hfindField hseenField hfill]
      exact hread

/-- A record is restored if its fields lead from the blank to it. -/
theorem restores (h : Field.RefillAll limit a r.fields r.blank a)
    (hkeys : (r.fields.map (·.key)).Nodup) : r.format.Restores limit a := by
  refine ⟨Value.membersReadable_iff.mpr ?_, nofun, fun s hs => ?_⟩
  · intro member hmember
    obtain ⟨field, hfield, hwrite⟩ := mem_written hmember
    exact h.readable field hfield _ hwrite
  · obtain ⟨room, henter, hfits⟩ := hs.enter_object
    have hmembers : ∀ member ∈ written r.fields a,
        Setting.Fits limit { s with room } member.2 := fun member hmember =>
      (hfits member hmember s.kept).mono (Nat.sub_le ..)
    obtain ⟨given, hread, -, hgiven⟩ := readMembers_written h
      (fun field hfield => find?_key hkeys hfield) hmembers hkeys
      (fun _ _ => List.not_mem_nil)
    have hmissing : r.missing? given = none := by
      refine List.find?_eq_none.mpr fun field hfield hmiss => ?_
      obtain ⟨hrequired, hnot⟩ := Bool.and_eq_true_iff.mp hmiss
      have hmem : field.key ∈ given := hgiven field hfield hrequired
      simp [hmem] at hnot
    refine bind_eq_ok.mpr ⟨_, henter, bind_eq_ok.mpr ⟨_, hread, bind_eq_ok.mpr ⟨(), rfl, ?_⟩⟩⟩
    rw [hmissing]
    rfl

end Record

end ProviderCode
