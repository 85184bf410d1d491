import ProviderCode.Proofs.FacetRoundTrip
import ProviderCode.Specification.ElementTypeFormat

/-!
# Reading written element types

An element type is read up to a depth, and each type inside it one level less deep. It opens at least
one container for each of its levels, so the room that is left bounds the depth that is still
needed.
-/

namespace ProviderCode

open Json (Value)

variable {limit : Nat}

/-- Values written beforehand make the list that their format writes. -/
theorem Format.write_list_value {α : Type} (format : Format α) (as : List α) :
    Format.value.list.write (as.map format.write) = format.list.write as :=
  congrArg Value.array (List.map_id _)

namespace ElementType

/-! ### Contents of the kinds -/

theorem scalarRecord_restores (custom : Option CustomType) :
    scalarRecord.format.Restores limit custom :=
  Record.restores (.cons (.optional (fun _ _ => CustomType.restores _) rfl) .nil) (by decide)

theorem collectionRecord_restores {ε : Type} [Inhabited ε] {element : Format ε}
    {content : Option CustomType × ε} (h : element.Restores limit content.2) :
    (collectionRecord element).format.Restores limit content :=
  Record.restores
    (.cons (.optional (fun _ _ => CustomType.restores _) rfl) <| .cons (.mandatory h) .nil)
    (by change List.Nodup ["custom_type", "element_type"]; decide)

theorem objectRecord_restores {α : Type} {child : Format α} {content : Option CustomType × List α}
    (h : ∀ a ∈ content.2, child.Restores limit a) :
    (objectRecord child).format.Restores limit content :=
  Record.restores
    (.cons (.optional (fun _ _ => CustomType.restores _) rfl) <|
      .cons (.defaulted (Format.list_restores h)) .nil)
    (by change List.Nodup ["custom_type", "attribute_types"]; decide)

theorem objectRecord_write_value {α : Type} (child : Format α) (custom : Option CustomType)
    (as : List α) : (objectRecord Format.value).write (custom, as.map child.write) =
      (objectRecord child).write (custom, as) :=
  Record.write_congr <|
    .cons ⟨rfl, rfl⟩ <| .cons ⟨rfl, congrArg some (child.write_list_value as)⟩ .nil

/-! ### Types inside each other -/

theorem entry_mem_names : ∀ type : ElementType, type.entry.1 ∈ names
  | .scalar type _ => by
    change type.name ∈ names
    cases type <;> decide
  | .collection shape _ _ => by
    change shape.name ∈ names
    cases shape <;> decide
  | .object _ _ => by
    change "object" ∈ names
    decide

theorem readWith_eq (kind? : String → Option (Reader ElementType)) :
    readWith kind? = Choice.readAlternative names kind? := by
  unfold readWith Choice.readAlternative
  congr 1
  funext s key tree
  cases kind? key <;> rfl

/-- A type is restored one level further out than the content of its kind. -/
theorem readWith_restores {kind? : String → Option (Reader ElementType)} {type : ElementType}
    (h : Choice.Restores limit kind? type.entry type) :
    Format.Restores (limit + 1) ⟨readWith kind?, write⟩ type := by
  rw [readWith_eq]
  exact h.choice rfl (entry_mem_names type)

theorem attributeFormatWith_restores {kind? : String → Option (Reader ElementType)}
    {member : String × ElementType} (hname : kind? "name" = none)
    (h : Choice.Restores limit kind? member.2.entry member.2) :
    (attributeFormatWith kind?).Restores (limit + 1) member :=
  ⟨Tagged.write_readable _ h.readable, nofun, fun _ hs =>
    Tagged.read_write "ObjectAttributeType" "ElementType" hname h member.1 hs⟩

theorem kind?_scalar (depth : Nat) (type : Scalar) : kind? (depth + 1) type.name =
    some fun s tree => .scalar type <$> scalarRecord.read s tree := by
  cases type <;> rfl

theorem kind?_collection (depth : Nat) (shape : Shape) : kind? (depth + 1) shape.name =
    some fun s tree => do
      let (custom, element) ← (collectionRecord ⟨readWith (kind? depth), write⟩).read s tree
      return .collection shape custom element := by
  cases shape <;> rfl

theorem kind?_name : ∀ depth : Nat, kind? depth "name" = none
  | 0 => rfl
  | _ + 1 => rfl

theorem attributeValues_eq_map (kind? : String → Option (Reader ElementType)) :
    ∀ attributes, attributeValues attributes = attributes.map (attributeFormatWith kind?).write
  | [] => rfl
  | (_, _) :: attributes => congrArg (_ :: ·) (attributeValues_eq_map kind? attributes)

mutual

/-- What is read up to a depth is restored where there is room for that depth at most. -/
theorem entry_restores : ∀ (type : ElementType) (depth : Nat),
    Choice.Restores depth (kind? depth) type.entry type
  | .scalar type custom, depth => by
    have hrecord : scalarRecord.format.Restores depth custom := scalarRecord_restores custom
    refine ⟨hrecord.readable, fun s hs => ?_⟩
    obtain ⟨depth, rfl⟩ := Nat.exists_eq_add_one.mpr hs.limit_pos
    exact ⟨_, kind?_scalar depth type, map_eq_ok.mpr ⟨custom, hrecord.read_eq s hs, rfl⟩⟩
  | .collection shape custom element, depth => by
    have hrecord : ∀ depth, (collectionRecord ⟨readWith (kind? depth), write⟩).format.Restores
        (depth + 1) (custom, element) := fun depth =>
      collectionRecord_restores (readWith_restores (entry_restores element depth))
    refine ⟨(hrecord depth).readable, fun s hs => ?_⟩
    obtain ⟨depth, rfl⟩ := Nat.exists_eq_add_one.mpr hs.limit_pos
    exact ⟨_, kind?_collection depth shape,
      bind_eq_ok.mpr ⟨_, (hrecord depth).read_eq s hs, rfl⟩⟩
  | .object custom attributes, depth => by
    have hrecord : ∀ depth, (objectRecord (attributeFormatWith (kind? depth))).format.Restores
        (depth + 1) (custom, attributes) := fun depth =>
      objectRecord_restores (attributes_restore attributes depth)
    have hwrite : ∀ depth, (ElementType.object custom attributes).entry.2 =
        (objectRecord (attributeFormatWith (kind? depth))).write (custom, attributes) := by
      intro depth
      rw [entry, attributeValues_eq_map (kind? depth), objectRecord_write_value]
    refine ⟨(hwrite depth) ▸ (hrecord depth).readable, fun s hs => ?_⟩
    obtain ⟨depth, rfl⟩ := Nat.exists_eq_add_one.mpr hs.limit_pos
    rw [hwrite depth] at hs ⊢
    exact ⟨_, rfl, bind_eq_ok.mpr ⟨_, (hrecord depth).read_eq s hs, rfl⟩⟩

theorem attributes_restore : ∀ (attributes : List (String × ElementType)) (depth : Nat),
    ∀ member ∈ attributes, (attributeFormatWith (kind? depth)).Restores (depth + 1) member
  | [], _ => fun _ h => absurd h List.not_mem_nil
  | (name, type) :: attributes, depth => by
    have hfirst : (attributeFormatWith (kind? depth)).Restores (depth + 1) (name, type) :=
      attributeFormatWith_restores (kind?_name depth) (entry_restores type depth)
    exact List.forall_mem_cons.mpr ⟨hfirst, attributes_restore attributes depth⟩

end

/-! ### Element types of a document -/

theorem restores (hlimit : limit ≤ Setting.deepest) (type : ElementType) :
    format.Restores limit type :=
  (readWith_restores (entry_restores type (Setting.deepest + 1))).mono
    (Nat.le_trans hlimit (Nat.le_add_right _ 2))

theorem attribute_restores (hlimit : limit ≤ Setting.deepest) (member : String × ElementType) :
    attributeFormat.Restores limit member :=
  (attributeFormatWith_restores (kind?_name _) (entry_restores member.2 (Setting.deepest + 1))).mono
    (Nat.le_trans hlimit (Nat.le_add_right _ 2))

end ElementType

end ProviderCode
