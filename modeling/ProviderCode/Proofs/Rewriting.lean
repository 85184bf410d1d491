import ProviderCode.Proofs.RegularTypes
import ProviderCode.Proofs.SpecificationRoundTrip

/-!
# Specifications that are read, written and read again

What is written for a specification that was read is nested at most one container deeper than the text
it was read from: the lists of attributes and blocks are written even where they were not given. A text
of which every container may be opened can so become one of which the last may not, and then it is not
read again. All others are read as the specification they were written for.
-/

namespace ProviderCode

open Json (Document Tree Value)

variable {σ α κ : Type}

/-! ### Room that reading needs -/

namespace Json.Value

mutual

/-- There is room for a value of which the tree is read whole. -/
theorem depth_le_of_readFault? : ∀ {value : Value} {room : Nat},
    value.tree.readFault? room = none → value.depth ≤ room
  | .null, _, _ | .bool _, _, _ | .integer _, _, _ | .float _, _, _ | .string _, _, _ => Nat.zero_le _
  | .array items, 0, h => nomatch h
  | .array items, room + 1, h => by
    rw [tree, Tree.readFault?, Option.or_eq_none_iff] at h
    exact Nat.succ_le_succ (itemsDepth_le_of_readFault? h.1)
  | .object members, 0, h => nomatch h
  | .object members, room + 1, h => by
    rw [tree, Tree.readFault?, Option.or_eq_none_iff] at h
    exact Nat.succ_le_succ (membersDepth_le_of_readFault? h.1)
termination_by structural value => value

theorem itemsDepth_le_of_readFault? : ∀ {items : List Value} {room : Nat},
    readItemsFault? (itemTrees items) room = none → itemsDepth items ≤ room
  | [], _, _ => Nat.zero_le _
  | item :: items, room, h => by
    rw [itemTrees, readItemsFault?, Option.or_eq_none_iff] at h
    exact Nat.max_le.mpr ⟨depth_le_of_readFault? h.1, itemsDepth_le_of_readFault? h.2⟩
termination_by structural items => items

theorem membersDepth_le_of_readFault? : ∀ {members : List (String × Value)} {room : Nat},
    readMembersFault? (memberTrees members) room = none → membersDepth members ≤ room
  | [], _, _ => Nat.zero_le _
  | (_, value) :: members, room, h => by
    rw [memberTrees, readMembersFault?, Option.or_eq_none_iff] at h
    exact Nat.max_le.mpr ⟨depth_le_of_readFault? h.1, membersDepth_le_of_readFault? h.2⟩
termination_by structural members => members

end

end Json.Value

/-- Whether what a format writes is read back only where there is room for all of its containers.
What has been kept is not counted again. -/
structure Format.NeedsRoom (format : Format α) : Prop where
  depth_le : ∀ {s : Setting} {a b : α}, s.kept = false →
    format.read s (format.write a).tree = .ok b → (format.write a).depth ≤ s.room

/-- Whether what a field writes is read back only where there is room for all of its containers. -/
structure Field.NeedsRoom (field : Field σ) : Prop where
  depth_le : ∀ {s : Setting} {a : σ} {value : Value} {fill : σ → σ}, s.kept = false →
    field.write a = some value → field.fill s value.tree = .ok fill → value.depth ≤ s.room

theorem Format.string_needsRoom : string.NeedsRoom := ⟨fun _ _ => Nat.zero_le _⟩

theorem Format.NeedsRoom.list {format : Format α} (h : format.NeedsRoom) : format.list.NeedsRoom := by
  refine ⟨fun {s as bs} hkept hread => ?_⟩
  obtain ⟨items, inner, htree, henter, hitems⟩ := list_read_eq_ok.mp hread
  obtain ⟨hinner, hroom⟩ := Setting.enter_eq_ok.mp henter
  have htrees : Value.itemTrees (as.map format.write) = items := (Tree.array.inj htree).1
  have hdepth : Value.itemsDepth (as.map format.write) ≤ inner.room := by
    refine Value.itemsDepth_le_iff.mpr fun value hvalue => ?_
    obtain ⟨a, -, rfl⟩ := List.mem_map.mp hvalue
    have hitem : (format.write a).tree ∈ items := by
      rw [← htrees, Value.itemTrees_eq_map]
      exact List.mem_map_of_mem hvalue
    obtain ⟨b, -, hread⟩ := exists_partner hitems.flip hitem
    exact h.depth_le (hinner.trans hkept) hread
  rw [hroom]
  exact Nat.succ_le_succ hdepth

namespace Field.NeedsRoom

variable {key : String} {format : Format α}

theorem mandatory {get : σ → α} {set : α → σ → σ} (h : format.NeedsRoom) :
    (Field.mandatory key format get set).NeedsRoom := by
  refine ⟨fun {s a value fill} hkept hwrite hfill => ?_⟩
  obtain rfl : format.write (get a) = value := Option.some.inj hwrite
  obtain ⟨v, hread, -⟩ := map_eq_ok.mp hfill
  exact h.depth_le hkept hread

theorem defaulted {get : σ → α} {set : α → σ → σ} (h : format.NeedsRoom) :
    (Field.defaulted key format get set).NeedsRoom := by
  refine ⟨fun {s a value fill} hkept hwrite hfill => ?_⟩
  obtain rfl : format.write (get a) = value := Option.some.inj hwrite
  obtain ⟨v, hread, -⟩ := map_eq_ok.mp hfill
  exact h.depth_le hkept hread

theorem optional {get : σ → Option α} {set : Option α → σ → σ} (h : format.NeedsRoom) :
    (Field.optional key format get set).NeedsRoom := by
  refine ⟨fun {s a value fill} hkept hwrite hfill => ?_⟩
  obtain ⟨x, -, rfl⟩ := Option.map_eq_some_iff.mp hwrite
  obtain ⟨v, hread, -⟩ := map_eq_ok.mp hfill
  obtain ⟨hnull, -⟩ | hsome := Format.option_read_eq_ok hread
  · cases hvalue : format.write x with
    | array => rw [hvalue] at hnull; cases hnull
    | object => rw [hvalue] at hnull; cases hnull
    | _ => exact Nat.zero_le _
  · obtain ⟨y, hread, -⟩ := map_eq_ok.mp hsome
    exact h.depth_le hkept hread

end Field.NeedsRoom

/-- A record is read back only where there is room for what its fields write. -/
theorem Record.needsRoom {r : Record σ} (h : r.Orderly)
    (hfields : ∀ field ∈ r.fields, field.NeedsRoom) :
    r.format.NeedsRoom := by
  refine ⟨fun {s a b} hkept hread => ?_⟩
  obtain ⟨-, inner, given, henter, hmembers, -⟩ := read_object_eq_ok.mp hread
  obtain ⟨hinner, hroom⟩ := Setting.enter_eq_ok.mp henter
  have hdepth : Value.membersDepth (written r.fields a) ≤ inner.room := by
    refine Value.membersDepth_le_iff.mpr fun member hmember => ?_
    obtain ⟨field, hfield, hvalue⟩ := List.mem_filterMap.mp hmember
    obtain ⟨value, hwrite, rfl⟩ := Option.map_eq_some_iff.mp hvalue
    have htree : (some field.key, value.tree) ∈ Value.memberTrees (written r.fields a) := by
      rw [Value.memberTrees_eq_map]
      exact List.mem_map.mpr ⟨(field.key, value), hmember, rfl⟩
    obtain ⟨fill, hfill⟩ := (readMembers_eq_ok.mp hmembers).fills field.key value.tree field htree
      (find?_key h.keys hfield)
    exact (hfields field hfield).depth_le (hinner.trans hkept) hwrite hfill
  rw [hroom]
  exact Nat.succ_le_succ hdepth

/-- A name and a kind are kept whole when they are read back, so there is room for all of it. -/
theorem Tagged.needsRoom {format : Format α} {record choice : String}
    {kind? : String → Option (Reader κ)} {entry : κ → String × Value} (mk : String → κ → α)
    (hformat : ∀ s tree, format.read s tree =
      (fun found => mk found.1 found.2) <$> read record choice kind? s tree)
    (hmk : ∀ a, ∃ name k, a = mk name k)
    (hwrite : ∀ name k, format.write (mk name k) = write name (entry k).1 (entry k).2)
    (hname : ∀ k, (entry k).1 ≠ "name") : format.NeedsRoom := by
  refine ⟨fun {s a b} hkept hread => ?_⟩
  obtain ⟨name, k, rfl⟩ := hmk a
  rw [hformat, hwrite] at hread
  obtain ⟨_, hread, -⟩ := map_eq_ok.mp hread
  obtain ⟨members, inner, reader, content, htree, henter, hmembers, -⟩ := read_eq_ok.mp hread
  obtain ⟨hinner, hroom⟩ := Setting.enter_eq_ok.mp henter
  obtain ⟨rfl, -⟩ := Tree.object.inj htree
  obtain ⟨hpasses, -⟩ := readMembers_eq_ok.mp hmembers
  have hmember : (some (entry k).1, (entry k).2.tree) ∈
      Value.memberTrees [("name", .string name), (entry k)] :=
    List.mem_cons_of_mem _ List.mem_cons_self
  have hdepth : (entry k).2.depth ≤ inner.room := by
    rcases (hpasses _ hmember).2 fun h => hname k (Option.some.inj h) with hwhole | hfault
    · rw [hinner, hkept] at hwhole
      cases hwhole
    · exact Value.depth_le_of_readFault? hfault
  rw [hwrite, hroom]
  change max 0 (max (entry k).2.depth 0) + 1 ≤ inner.room + 1
  omega

theorem Attribute.needsRoom : format.NeedsRoom :=
  Tagged.needsRoom mk (fun _ _ => rfl) (fun ⟨name, kind⟩ => ⟨name, kind, rfl⟩)
    (write_mk format.read) fun kind h =>
      absurd (h ▸ AttributeKind.entry_mem_names ⟨format.read, write⟩ kind) (by decide)

theorem Block.needsRoom : format.NeedsRoom :=
  Tagged.needsRoom mk (fun _ _ => rfl) (fun ⟨name, kind⟩ => ⟨name, kind, rfl⟩)
    (write_mk format.read) fun kind h =>
      absurd (h ▸ BlockKind.entry_mem_names Attribute.format ⟨format.read, write⟩ kind) (by decide)

theorem Schema.needsRoom : record.format.NeedsRoom :=
  Record.needsRoom orderly <|
    List.forall_mem_cons.mpr ⟨.defaulted Attribute.needsRoom.list,
      List.forall_mem_cons.mpr ⟨.defaulted Block.needsRoom.list,
        List.forall_mem_cons.mpr ⟨.optional Format.string_needsRoom,
          List.forall_mem_singleton.mpr (.optional Format.string_needsRoom)⟩⟩⟩

theorem Resource.needsRoom : record.format.NeedsRoom :=
  Record.needsRoom orderly <|
    List.forall_mem_cons.mpr ⟨.mandatory Format.string_needsRoom,
      List.forall_mem_singleton.mpr (.optional Schema.needsRoom)⟩

theorem Specification.needsRoom : record.format.NeedsRoom :=
  Record.needsRoom orderly <|
    List.forall_mem_cons.mpr ⟨.optional Format.string_needsRoom,
      List.forall_mem_singleton.mpr (.defaulted Resource.needsRoom.list)⟩

/-! ### Reading what was written -/

/-- A specification is read back from its text only if that is not nested deeper than documents may
be. -/
theorem depth_le_of_readText {specification other : Specification}
    (hfloats : ∀ x ∈ specification.floatDefaults, Format.Survives x)
    (hread : Specification.record.format.readText
      (Specification.record.format.writeText specification) = .ok other) :
    (Specification.record.format.write specification).depth ≤ Setting.deepest := by
  have hrestores : Specification.record.format.Restores Setting.deepest specification :=
    Specification.restores (Nat.le_succ _) hfloats
  obtain ⟨hroot, -⟩ := Format.readText_eq_ok.mp hread
  rw [Format.writeText, Value.ofText_compact hrestores.readable] at hroot
  exact Specification.needsRoom.depth_le rfl hroot

/-- What a text is read as is written at most one container deeper than the text, and than documents
may be. If it is not deeper than they may be it is read back as it was, and otherwise not at all. The
floating point defaults have to survive being printed and read. -/
theorem readText_rewritten {text : String} {specification : Specification}
    (hread : Specification.record.format.readText text = .ok specification)
    (hfloats : ∀ x ∈ specification.floatDefaults, Format.Survives x) :
    (Specification.record.format.write specification).depth ≤ (Document.ofText text).root.depth + 1 ∧
    (Specification.record.format.write specification).depth ≤ Setting.deepest + 1 ∧
    ∀ other, Specification.record.format.readText
        (Specification.record.format.writeText specification) = .ok other ↔
      other = specification ∧
        (Specification.record.format.write specification).depth ≤ Setting.deepest := by
  obtain ⟨hroot, -⟩ := Format.readText_eq_ok.mp hread
  have hwritten : (Specification.record.format.write specification).depth ≤
      min Setting.deepest (Document.ofText text).root.depth + 1 := Specification.regular.written hroot
  have hrestores : Specification.record.format.Restores Setting.deepest specification :=
    Specification.restores (Nat.le_succ _) hfloats
  refine ⟨by omega, by omega, fun other => ⟨fun hother => ?_, ?_⟩⟩
  · have hdepth := depth_le_of_readText hfloats hother
    rw [hrestores.readText hdepth] at hother
    exact ⟨(Except.ok.inj hother).symm, hdepth⟩
  · rintro ⟨rfl, hdepth⟩
    exact hrestores.readText hdepth

/-- The content of an object inside objects; the innermost one does not give its attributes. -/
def nestedContent : Nat → Value
  | 0 => .object [("computed_optional_required", .string "optional")]
  | depth + 1 => .object [("computed_optional_required", .string "optional"),
    ("attributes", .array [.object [("name", .string "a"), ("single_nested", nestedContent depth)]])]

/-- A specification document with objects inside each other. -/
def nestedDocument (depth : Nat) : Value :=
  .object [("resources", .array [.object [("name", .string "r"), ("schema", .object [
    ("attributes", .array [.object [("name", .string "a"),
      ("single_nested", nestedContent depth)]])])]])]

theorem nestedContent_readable : ∀ depth, (nestedContent depth).Readable
  | 0 => ⟨trivial, trivial⟩
  | depth + 1 => ⟨trivial, ⟨⟨trivial, nestedContent_readable depth, trivial⟩, trivial⟩, trivial⟩

theorem nestedDocument_ofText (depth : Nat) :
    Document.ofText (nestedDocument depth).compact = ⟨(nestedDocument depth).tree, false⟩ :=
  Value.ofText_compact ⟨⟨⟨trivial, ⟨⟨⟨trivial, nestedContent_readable depth, trivial⟩, trivial⟩,
    trivial⟩, trivial⟩, trivial⟩, trivial⟩

/-- A text that is nested as deep as documents may be, and is read, while the text that is written for
it is not. -/
theorem deepest_text_not_reread :
    (nestedDocument 40).depth = Setting.deepest ∧ ∃ specification,
      Specification.record.format.readText (nestedDocument 40).compact = .ok specification ∧
      specification.floatDefaults = [] ∧
      ∀ other, Specification.record.format.readText
        (Specification.record.format.writeText specification) ≠ .ok other := by
  have hread : ((Specification.record.format.read .root (nestedDocument 40).tree).toOption.map
      fun specification => ((Specification.record.format.write specification).depth,
        specification.floatDefaults.isEmpty)) = some (Setting.deepest + 1, true) := by
    decide +kernel
  obtain ⟨specification, hspecification, hdeep⟩ := Option.map_eq_some_iff.mp hread
  obtain ⟨hdepth, hfloats⟩ := Prod.mk.inj hdeep
  have hnone : specification.floatDefaults = [] := List.isEmpty_iff.mp hfloats
  refine ⟨by decide +kernel, specification, ?_, hnone, fun other hother => ?_⟩
  · rw [Format.readText_eq_ok, nestedDocument_ofText]
    refine ⟨?_, rfl⟩
    cases hresult : Specification.record.format.read .root (nestedDocument 40).tree with
    | error => rw [hresult] at hspecification; cases hspecification
    | ok found => rw [hresult] at hspecification; rw [Option.some.inj hspecification]
  · have hle := depth_le_of_readText (fun x hx => by rw [hnone] at hx; cases hx) hother
    omega

/-- The specification of the document with one object. -/
def singleSpecification : Specification where
  resources := [{
    name := "r"
    schema := some { attributes := [.mk "a" (.single { mode := .optional } none [])] } }]

/-- The specification is written with a list of attributes that its text did not give, and read
back. -/
theorem readText_rewritten_single :
    Specification.record.format.readText (nestedDocument 0).compact = .ok singleSpecification ∧
    (∀ x ∈ singleSpecification.floatDefaults, Format.Survives x) ∧
    (Specification.record.format.write singleSpecification).depth =
      (Document.ofText (nestedDocument 0).compact).root.depth + 1 ∧
    Specification.record.format.readText
      (Specification.record.format.writeText singleSpecification) = .ok singleSpecification := by
  have hread : Specification.record.format.readText (nestedDocument 0).compact =
      .ok singleSpecification := by
    rw [Format.readText_eq_ok, nestedDocument_ofText]
    exact ⟨rfl, rfl⟩
  have hfloats : ∀ x ∈ singleSpecification.floatDefaults, Format.Survives x :=
    fun x hx => absurd hx List.not_mem_nil
  have hdepth : (Specification.record.format.write singleSpecification).depth ≤ Setting.deepest := by
    decide
  refine ⟨hread, hfloats, ?_, ((readText_rewritten hread hfloats).2.2 _).mpr ⟨rfl, hdepth⟩⟩
  rw [nestedDocument_ofText]
  rfl

end ProviderCode
