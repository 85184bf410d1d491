import ProviderCode.Proofs.RegularRecords
import ProviderCode.Proofs.BlockRoundTrip

/-!
# Regular types of a specification

Every type of a specification is regular at its position, from the import up to the document. For types
inside each other this goes by the depth to which they are read.
-/

namespace ProviderCode

open Json (Value)

variable {σ φ γ τ α β : Type} {p : Position}

/-! ### Facets -/

theorem Mode.regular : Mode.format.Regular p := Format.names_regular

theorem Import.regular : Import.record.format.Regular p :=
  Record.regular_anywhere ⟨by decide, List.pairwise_pair.mpr (.of_parts rfl rfl rfl)⟩ <|
    .cons (.mandatory Format.string_regular rfl) <|
    .cons (.optional Format.string_regular rfl rfl) .nil

theorem CustomType.orderly : CustomType.record.Orderly where
  keys := by decide
  independent := by
    simp only [record, List.pairwise_cons, List.forall_mem_cons, List.not_mem_nil, false_imp_iff,
      implies_true, List.Pairwise.nil, and_true]
    and_intros <;> exact .of_parts rfl rfl rfl

theorem CustomType.regular : CustomType.record.format.Regular p :=
  Record.regular_anywhere orderly <|
    .cons (.optional Import.regular rfl rfl) <| .cons (.mandatory Format.string_regular rfl) <|
    .cons (.mandatory Format.string_regular rfl) .nil

theorem ExternalType.regular : ExternalType.record.format.Regular p :=
  Record.regular_anywhere ⟨by decide, List.pairwise_pair.mpr (.of_parts rfl rfl rfl)⟩ <|
    .cons (.optional Import.regular rfl rfl) <| .cons (.mandatory Format.string_regular rfl) .nil

theorem Definition.regular : Definition.record.format.Regular p :=
  Record.regular_anywhere ⟨by decide, List.pairwise_pair.mpr (.of_parts rfl rfl rfl)⟩ <|
    .cons (.list Import.regular.list_anywhere rfl rfl) <|
    .cons (.mandatory Format.string_regular rfl) .nil

theorem Extension.regular {name : String} : (Extension.record name).format.Regular p :=
  Record.regular_anywhere ⟨List.pairwise_singleton _ _, List.pairwise_singleton _ _⟩ <|
    .cons (.optional Definition.regular rfl rfl) .nil

theorem Default.regular {literal : Format τ} (h : literal.Regular .other) :
    (Default.record literal).format.Regular p :=
  Record.regular_anywhere ⟨of_decide_eq_true rfl, List.pairwise_pair.mpr (.of_parts rfl rfl rfl)⟩ <|
    .cons (.optional h rfl rfl) <| .cons (.optional Definition.regular rfl rfl) .nil

namespace Facets

theorem customTypeField_regular : customTypeField.Regular p {} :=
  .optional CustomType.regular rfl rfl

theorem deprecationField_regular : deprecationField.Regular p {} :=
  .optional Format.string_regular rfl rfl

theorem descriptionField_regular : descriptionField.Regular p {} :=
  .optional Format.string_regular rfl rfl

theorem planModifiersField_regular : planModifiersField.Regular p {} :=
  .list Extension.regular.list_anywhere rfl rfl

theorem sensitiveField_regular : sensitiveField.Regular p {} :=
  .optional Format.bool_regular rfl rfl

theorem validatorsField_regular : validatorsField.Regular p {} :=
  .list Extension.regular.list_anywhere rfl rfl

end Facets

namespace AttributeFacets

variable {literal : Format τ}

theorem regular_before (h : literal.Regular .other) :
    Field.AllRegular p blank (fieldsBefore literal) :=
  .cons (.mandatory Mode.regular rfl) <|
    .cons (.within Facets.customTypeField_regular rfl) <|
    .cons (.optional (Default.regular h) rfl rfl) <|
    .cons (.within Facets.deprecationField_regular rfl) <|
    .cons (.within Facets.descriptionField_regular rfl) .nil

theorem regular_after : Field.AllRegular p (blank : AttributeFacets τ) fieldsAfter :=
  .cons (.within Facets.planModifiersField_regular rfl) <|
    .cons (.within Facets.sensitiveField_regular rfl) <|
    .cons (.within Facets.validatorsField_regular rfl) .nil

theorem independent : (fieldsBefore literal ++ fieldsAfter).Pairwise Field.Independent := by
  simp only [fieldsBefore, fieldsAfter, shared, Facets.customTypeField, Facets.deprecationField,
    Facets.descriptionField, Facets.planModifiersField, Facets.sensitiveField,
    Facets.validatorsField, List.cons_append, List.nil_append, List.pairwise_cons,
    List.forall_mem_cons, List.not_mem_nil, false_imp_iff, implies_true, List.Pairwise.nil, and_true]
  and_intros <;> exact .of_parts rfl rfl rfl

end AttributeFacets

namespace BlockFacets

theorem regular_before : Field.AllRegular p {} fieldsBefore :=
  .cons (.optional Mode.regular rfl rfl) <|
    .cons (.within Facets.customTypeField_regular rfl) <|
    .cons (.within Facets.deprecationField_regular rfl) <|
    .cons (.within Facets.descriptionField_regular rfl) .nil

theorem regular_after : Field.AllRegular p {} fieldsAfter :=
  .cons (.within Facets.planModifiersField_regular rfl) <|
    .cons (.within Facets.sensitiveField_regular rfl) <|
    .cons (.within Facets.validatorsField_regular rfl) .nil

theorem independent : (fieldsBefore ++ fieldsAfter).Pairwise Field.Independent := by
  simp only [fieldsBefore, fieldsAfter, shared, Facets.customTypeField, Facets.deprecationField,
    Facets.descriptionField, Facets.planModifiersField, Facets.sensitiveField,
    Facets.validatorsField, List.cons_append, List.nil_append, List.pairwise_cons,
    List.forall_mem_cons, List.not_mem_nil, false_imp_iff, implies_true, List.Pairwise.nil, and_true]
  and_intros <;> exact .of_parts rfl rfl rfl

end BlockFacets

namespace ObjectFacets

theorem externalField_regular : externalField.Regular p {} :=
  .optional ExternalType.regular rfl rfl

theorem regular_after : Field.AllRegular p {} fieldsAfter :=
  .cons (.optional CustomType.regular rfl rfl) <|
    .cons (.list Extension.regular.list_anywhere rfl rfl) <|
    .cons (.list Extension.regular.list_anywhere rfl rfl) .nil

end ObjectFacets

/-! ### Facets beside something else -/

namespace Leaf

/-- A field of what the facets are paired with is independent of theirs. -/
theorem independent_paired {other : Field (φ × γ)} [part : other.Part]
    (hfst : ∀ {v r}, (part.set v r).1 = r.1)
    (hset : ∀ {v} {f : φ → φ} {r}, part.set v (f r.1, r.2) = (f r.1, (part.set v r).2))
    (hget : ∀ {f : φ → φ} {r}, part.get (f r.1, r.2) = part.get r) {fields : List (Field φ)} :
    ∀ field ∈ fields.map paired, other.Independent field := by
  intro _ hfield
  obtain ⟨field, -, rfl⟩ := List.mem_map.mp hfield
  constructor
  · intro _ _ _ _ fill fill' hfill hfill' a
    obtain ⟨v, rfl⟩ := part.fill_eq hfill
    obtain ⟨f, -, rfl⟩ := map_eq_ok.mp hfill'
    rw [hset, ← hfst (v := v) (r := a)]
  · intro _ _ fill hfill a
    obtain ⟨f, -, rfl⟩ := map_eq_ok.mp hfill
    exact part.write_eq hget
  · intro _ _ fill hfill a
    obtain ⟨v, rfl⟩ := part.fill_eq hfill
    exact congrArg field.write hfst

theorem pairwise_paired {fields : List (Field φ)} (h : fields.Pairwise Field.Independent) :
    (fields.map (paired (γ := γ))).Pairwise Field.Independent :=
  List.pairwise_map.mpr <| h.imp fun h => h.within (fun _ _ => rfl) fun _ _ _ => rfl

/-- The fields of the facets, with one field beside them in their midst. -/
theorem pairwise_beside {before after : List (Field φ)} {other : Field (φ × γ)}
    (h : (before ++ after).Pairwise Field.Independent)
    (hother : ∀ field ∈ (before ++ after).map paired, other.Independent field) :
    (before.map paired ++ other :: after.map paired).Pairwise Field.Independent := by
  rw [List.pairwise_middle Field.Independent.symm, ← List.map_append]
  exact List.pairwise_cons.mpr ⟨hother, pairwise_paired h⟩

end Leaf

/-! ### Element types -/

namespace ElementType

instance {get : σ → Option CustomType} {set : Option CustomType → σ → σ} :
    (customTypeField get set).Part :=
  .optional

theorem scalarRecord_regular : scalarRecord.format.Regular p :=
  Record.regular_anywhere ⟨by decide, List.pairwise_singleton _ _⟩ <|
    .cons (.optional CustomType.regular rfl rfl) .nil

theorem collectionRecord_regular {ε : Type} [Inhabited ε] {element : Format ε}
    (h : element.Regular .elementType) :
    (collectionRecord element).format.Regular .collectionElement :=
  Record.regular ⟨of_decide_eq_true rfl, List.pairwise_pair.mpr (.of_parts rfl rfl rfl)⟩
    (.cons (.optional CustomType.regular rfl rfl) <| .cons (.mandatory h rfl) .nil) fun _ => rfl

theorem objectRecord_regular {child : Format α} (h : child.Regular .memberType) :
    (objectRecord child).format.Regular .objectElement :=
  Record.regular ⟨of_decide_eq_true rfl, List.pairwise_pair.mpr (.of_parts rfl rfl rfl)⟩
    (.cons (.optional CustomType.regular rfl rfl) <|
      .cons (.defaulted (.list h fun _ => rfl) (Nat.le_refl _) rfl) .nil) fun _ => rfl

theorem entry_object (depth : Nat) (custom : Option CustomType)
    (attributes : List (String × ElementType)) : (ElementType.object custom attributes).entry.2 =
      (objectRecord (attributeFormatWith (kind? depth))).write (custom, attributes) := by
  rw [entry, attributeValues_eq_map (kind? depth), objectRecord_write_value]

/-- The attribute of an object is regular if the contents of the kinds are. -/
theorem attributeFormatWith_regular {depth : Nat}
    (h : ∀ name reader, kind? depth name = some reader →
      Reader.Regular (Position.memberType.member name) reader fun type => type.entry.2) :
    Format.Regular .memberType (attributeFormatWith (kind? depth)) := by
  have hnames : ∀ name reader, kind? depth name = some reader → name ∈ names := by
    intro name reader hreader
    cases depth with
    | zero => cases hreader
    | succ depth => exact mem_names hreader
  exact Tagged.regular Prod.mk (fun _ _ => (id_map _).symm) hnames (fun _ _ => rfl) h

/-- The content of every kind is regular. -/
theorem kind?_regular : ∀ (depth : Nat) (name : String) (reader : Reader ElementType),
    kind? depth name = some reader →
      Reader.Regular (Position.elementType.member name) reader fun type => type.entry.2
  | 0, _, _, h => nomatch h
  | depth + 1, _, _, h => by
    have helement : Format.Regular .elementType ⟨readWith (kind? depth), write⟩ := by
      rw [readWith_eq]
      exact Choice.regular (fun _ => rfl) (kind?_regular depth)
    have hattribute : Format.Regular .memberType (attributeFormatWith (kind? depth)) :=
      attributeFormatWith_regular (kind?_regular depth)
    refine kind?_induction (p := fun name reader =>
      Reader.Regular (Position.elementType.member name) reader fun type => type.entry.2) ?_ ?_ ?_ h
    · exact fun type => scalarRecord_regular.map fun _ => rfl
    · intro shape
      have hposition : Position.elementType.member shape.name = .collectionElement := by
        cases shape <;> rfl
      rw [hposition]
      exact (collectionRecord_regular helement).map fun _ => rfl
    · exact (objectRecord_regular hattribute).map fun content => entry_object depth content.1 content.2

theorem regular : format.Regular .elementType := by
  rw [format, readWith_eq]
  exact Choice.regular (fun _ => rfl) (kind?_regular _)

theorem attribute_regular : attributeFormat.Regular .memberType :=
  attributeFormatWith_regular (kind?_regular _)

end ElementType

/-! ### Attributes without attributes of their own -/

namespace Leaf

theorem scalarRecord_regular {literal : Format τ} (h : literal.Regular .other) :
    (scalarRecord literal).format.Regular p :=
  Record.regular_anywhere ⟨of_decide_eq_true rfl, AttributeFacets.independent⟩ <|
    (AttributeFacets.regular_before h).append AttributeFacets.regular_after

theorem collectionRecord_regular : collectionRecord.format.Regular .collectionAttribute :=
  Record.regular
    ⟨by decide, pairwise_beside AttributeFacets.independent (independent_paired rfl rfl rfl)⟩
    ((AttributeFacets.regular_before Format.never_regular).paired.append <|
      .cons (.optional ElementType.regular rfl rfl) AttributeFacets.regular_after.paired) fun _ => rfl

theorem objectRecord_regular : objectRecord.format.Regular .objectAttribute :=
  Record.regular
    ⟨by decide, List.pairwise_cons.mpr
      ⟨independent_paired rfl rfl rfl, pairwise_paired AttributeFacets.independent⟩⟩
    (.cons (.optional (.list ElementType.attribute_regular fun _ => rfl) rfl rfl)
      ((AttributeFacets.regular_before Format.never_regular).append
        AttributeFacets.regular_after).paired) fun _ => rfl

/-- The content of every leaf is regular. -/
theorem kind?_regular {name : String} {reader : Reader Leaf} (h : kind? name = some reader) :
    Reader.Regular (Position.namedAttribute.member name) reader fun leaf => leaf.entry.2 := by
  refine kind?_induction (p := fun name reader =>
    Reader.Regular (Position.namedAttribute.member name) reader fun leaf => leaf.entry.2) ?_ ?_ ?_ h
  · intro type
    cases type with
    | bool => exact (scalarRecord_regular Format.bool_regular).map fun _ => rfl
    | float64 => exact (scalarRecord_regular Format.float_regular).map fun _ => rfl
    | int64 => exact (scalarRecord_regular Format.int64_regular).map fun _ => rfl
    | number => exact (scalarRecord_regular Format.never_regular).map fun _ => rfl
    | string => exact (scalarRecord_regular Format.string_regular).map fun _ => rfl
  · intro shape
    have hposition : Position.namedAttribute.member shape.name = .collectionAttribute := by
      cases shape <;> rfl
    rw [hposition]
    exact collectionRecord_regular.map fun _ => rfl
  · exact objectRecord_regular.map fun _ => rfl

end Leaf

/-! ### Attributes -/

namespace AttributeObject

theorem orderly {child : Format α} : (record child).Orderly where
  keys := of_decide_eq_true rfl
  independent := by
    simp only [record, record.shared, ObjectFacets.externalField, ObjectFacets.fieldsAfter,
      List.map_cons, List.map_nil, List.pairwise_cons, List.forall_mem_cons, List.not_mem_nil,
      false_imp_iff, implies_true, List.Pairwise.nil, and_true]
    and_intros <;> exact .of_parts rfl rfl rfl

theorem regular {child : Format α} (h : child.Regular .namedAttribute) :
    (record child).format.Regular .attributeObject :=
  Record.regular orderly
    (.cons (.within ObjectFacets.externalField_regular rfl) <|
      .cons (.defaulted (.list h fun _ => rfl) (Nat.le_refl _) rfl) <|
      ObjectFacets.regular_after.within rfl rfl) fun _ => rfl

end AttributeObject

namespace AttributeKind

variable {child : Format α}

theorem nestedRecord_regular (h : child.Regular .namedAttribute) :
    (nestedRecord child).format.Regular .nestedAttribute :=
  Record.regular
    ⟨of_decide_eq_true rfl,
      Leaf.pairwise_beside AttributeFacets.independent (Leaf.independent_paired rfl rfl rfl)⟩
    ((AttributeFacets.regular_before Format.never_regular).paired.append <|
      .cons (.optional (AttributeObject.regular h) rfl rfl) AttributeFacets.regular_after.paired)
    fun _ => rfl

theorem singleRecord_regular (h : child.Regular .namedAttribute) :
    (singleRecord child).format.Regular .singleAttribute :=
  Record.regular
    ⟨of_decide_eq_true rfl, List.pairwise_cons.mpr
      ⟨List.forall_mem_cons.mpr ⟨.of_parts rfl rfl rfl, Leaf.independent_paired rfl rfl rfl⟩,
        List.pairwise_cons.mpr
          ⟨Leaf.independent_paired rfl rfl rfl, Leaf.pairwise_paired AttributeFacets.independent⟩⟩⟩
    (.cons (.optional ExternalType.regular rfl rfl) <|
      .cons (.defaulted (.list h fun _ => rfl) (Nat.le_refl _) rfl) <|
      ((AttributeFacets.regular_before Format.never_regular).append
        AttributeFacets.regular_after).paired) fun _ => rfl

/-- The content of every kind is regular if the attributes inside it are. -/
theorem kind?_regular (h : child.Regular .namedAttribute) (name : String)
    (reader : Reader (AttributeKind α)) (hreader : kind? child name = some reader) :
    Reader.Regular (Position.namedAttribute.member name) reader fun kind => (entry child kind).2 := by
  refine kind?_induction (p := fun name reader => Reader.Regular
    (Position.namedAttribute.member name) reader fun kind => (entry child kind).2) ?_ ?_ ?_ hreader
  · intro shape
    have hposition : Position.namedAttribute.member (nestedName shape) = .nestedAttribute := by
      cases shape <;> rfl
    rw [hposition]
    exact (nestedRecord_regular h).map fun _ => rfl
  · exact (singleRecord_regular h).map fun _ => rfl
  · exact fun _ _ hleaf => (Leaf.kind?_regular hleaf).map fun _ => rfl

end AttributeKind

namespace Attribute

theorem regular_to : ∀ depth : Nat, Format.Regular .namedAttribute ⟨readTo depth, write⟩
  | 0 => ⟨fun _ _ => .of_errors nofun nofun, nofun⟩
  | depth + 1 => Tagged.regular mk (fun _ _ => rfl) (fun _ _ => AttributeKind.mem_names)
    (write_mk (readTo depth)) (AttributeKind.kind?_regular (regular_to depth))

theorem regular : format.Regular .namedAttribute := regular_to _

end Attribute

/-! ### Blocks -/

namespace BlockObject

variable {child : Format α} {block : Format β}

theorem orderly : (record child block).Orderly where
  keys := of_decide_eq_true rfl
  independent := by
    simp only [record, record.shared, ObjectFacets.externalField, ObjectFacets.fieldsAfter,
      List.map_cons, List.map_nil, List.pairwise_cons, List.forall_mem_cons, List.not_mem_nil,
      false_imp_iff, implies_true, List.Pairwise.nil, and_true]
    and_intros <;> exact .of_parts rfl rfl rfl

theorem regular (hchild : child.Regular .namedAttribute) (hblock : block.Regular .namedBlock) :
    (record child block).format.Regular .blockObject :=
  Record.regular orderly
    (.cons (.within ObjectFacets.externalField_regular rfl) <|
      .cons (.defaulted (.list hchild fun _ => rfl) (Nat.le_refl _) rfl) <|
      .cons (.defaulted (.list hblock fun _ => rfl) (Nat.le_refl _) rfl) <|
      ObjectFacets.regular_after.within rfl rfl) fun _ => rfl

end BlockObject

namespace BlockKind

variable {child : Format α} {block : Format β}

theorem nestedRecord_regular (hchild : child.Regular .namedAttribute)
    (hblock : block.Regular .namedBlock) :
    (nestedRecord child block).format.Regular .nestedBlock :=
  Record.regular
    ⟨of_decide_eq_true rfl,
      Leaf.pairwise_beside BlockFacets.independent (Leaf.independent_paired rfl rfl rfl)⟩
    (BlockFacets.regular_before.paired.append <|
      .cons (.optional (BlockObject.regular hchild hblock) rfl rfl) BlockFacets.regular_after.paired)
    fun _ => rfl

theorem singleRecord_regular (hchild : child.Regular .namedAttribute)
    (hblock : block.Regular .namedBlock) :
    (singleRecord child block).format.Regular .singleBlock :=
  Record.regular
    ⟨of_decide_eq_true rfl, List.pairwise_cons.mpr
      ⟨List.forall_mem_cons.mpr ⟨.of_parts rfl rfl rfl,
        List.forall_mem_cons.mpr ⟨.of_parts rfl rfl rfl, Leaf.independent_paired rfl rfl rfl⟩⟩,
      List.pairwise_cons.mpr
        ⟨List.forall_mem_cons.mpr ⟨.of_parts rfl rfl rfl, Leaf.independent_paired rfl rfl rfl⟩,
        List.pairwise_cons.mpr
          ⟨Leaf.independent_paired rfl rfl rfl, Leaf.pairwise_paired BlockFacets.independent⟩⟩⟩⟩
    (.cons (.optional ExternalType.regular rfl rfl) <|
      .cons (.defaulted (.list hchild fun _ => rfl) (Nat.le_refl _) rfl) <|
      .cons (.defaulted (.list hblock fun _ => rfl) (Nat.le_refl _) rfl) <|
      (BlockFacets.regular_before.append BlockFacets.regular_after).paired) fun _ => rfl

/-- The content of every kind is regular if the attributes and blocks inside it are. -/
theorem kind?_regular (hchild : child.Regular .namedAttribute) (hblock : block.Regular .namedBlock)
    (name : String) (reader : Reader (BlockKind α β))
    (hreader : kind? child block name = some reader) :
    Reader.Regular (Position.namedBlock.member name) reader fun kind => (entry child block kind).2 := by
  refine kind?_induction (p := fun name reader => Reader.Regular
    (Position.namedBlock.member name) reader fun kind => (entry child block kind).2) ?_ ?_ hreader
  · intro shape
    have hposition : Position.namedBlock.member (nestedName shape) = .nestedBlock := by
      cases shape <;> rfl
    rw [hposition]
    exact (nestedRecord_regular hchild hblock).map fun _ => rfl
  · exact (singleRecord_regular hchild hblock).map fun _ => rfl

end BlockKind

namespace Block

theorem regular_to : ∀ depth : Nat, Format.Regular .namedBlock ⟨readTo depth, write⟩
  | 0 => ⟨fun _ _ => .of_errors nofun nofun, nofun⟩
  | depth + 1 => Tagged.regular mk (fun _ _ => rfl) (fun _ _ => BlockKind.mem_names)
    (write_mk (readTo depth)) (BlockKind.kind?_regular Attribute.regular (regular_to depth))

theorem regular : format.Regular .namedBlock := regular_to _

end Block

/-! ### Documents -/

theorem Schema.orderly : record.Orderly where
  keys := by decide
  independent := by
    simp only [record, List.pairwise_cons, List.forall_mem_cons, List.not_mem_nil, false_imp_iff,
      implies_true, List.Pairwise.nil, and_true]
    and_intros <;> exact .of_parts rfl rfl rfl

theorem Schema.regular : record.format.Regular .schema :=
  Record.regular orderly
    (.cons (.defaulted (.list Attribute.regular fun _ => rfl) (Nat.le_refl _) rfl) <|
      .cons (.defaulted (.list Block.regular fun _ => rfl) (Nat.le_refl _) rfl) <|
      .cons (.optional Format.string_regular rfl rfl) <|
      .cons (.optional Format.string_regular rfl rfl) .nil) fun _ => rfl

theorem Resource.orderly : record.Orderly :=
  ⟨by decide, List.pairwise_pair.mpr (.of_parts rfl rfl rfl)⟩

theorem Resource.regular : record.format.Regular .resource :=
  Record.regular orderly
    (.cons (.mandatory Format.string_regular rfl) <|
      .cons (.optional Schema.regular rfl rfl) .nil) fun _ => rfl

theorem Specification.orderly : record.Orderly :=
  ⟨by decide, List.pairwise_pair.mpr (.of_parts rfl rfl rfl)⟩

theorem Specification.regular : record.format.Regular .specification :=
  Record.regular orderly
    (.cons (.optional Format.string_regular rfl rfl) <|
      .cons (.defaulted (.list Resource.regular fun _ => rfl) (Nat.le_refl _) rfl) .nil) fun _ => rfl

end ProviderCode
