import ProviderCode.Proofs.BlockRoundTrip

/-!
# Specifications that are written and read again

Every type of a specification, from the document down to the import, is read back unchanged from the
text that is written for it: each list in its order, and what is absent or empty as such. The text
must not be nested deeper than documents may be, and the floating point defaults must survive being
printed and read.
-/

namespace ProviderCode

open Json (Document Token Value)

variable {limit : Nat}

/-! ### Kinds on their own -/

def AttributeObject.floatDefaults (object : AttributeObject Attribute) : List Float :=
  floatDefaultsOfAttributes object.attributes

def BlockObject.floatDefaults (object : BlockObject Attribute Block) : List Float :=
  floatDefaultsOfAttributes object.attributes ++ floatDefaultsOfBlocks object.blocks

namespace AttributeKind

/-- The floating point literals that are defaults somewhere in a kind. -/
def floatDefaults : AttributeKind Attribute → List Float
  | .leaf content => content.floatDefaults
  | .nested _ _ object => object.toList.flatMap AttributeObject.floatDefaults
  | .single _ _ attributes => floatDefaultsOfAttributes attributes

theorem entry_mem_names {α : Type} (child : Format α) :
    ∀ kind : AttributeKind α, (entry child kind).1 ∈ names
  | .leaf (.bool _) | .leaf (.float64 _) | .leaf (.int64 _) | .leaf (.number _)
  | .leaf (.string _) | .leaf (.object _ _) => List.contains_iff_mem.mp rfl
  | .leaf (.collection shape _ _) => by
    cases shape <;> exact List.contains_iff_mem.mp rfl
  | .nested shape _ _ => by
    cases shape <;> exact List.contains_iff_mem.mp rfl
  | .single _ _ _ => List.contains_iff_mem.mp rfl

/-- The defaults of a kind are those of its leaf, or of the attributes inside it. -/
theorem forall_floatDefaults {p : Float → Prop} : ∀ {kind : AttributeKind Attribute},
    (∀ x ∈ kind.floatDefaults, p x) →
      (∀ leaf, kind = .leaf leaf → ∀ x ∈ leaf.floatDefaults, p x) ∧
        ∀ x ∈ floatDefaultsOfAttributes kind.children, p x
  | .leaf _, h => by
    refine ⟨fun leaf hkind => ?_, fun _ hx => absurd hx List.not_mem_nil⟩
    cases hkind
    exact h
  | .nested _ _ none, _ => ⟨fun _ hkind => (nomatch hkind), fun _ hx => absurd hx List.not_mem_nil⟩
  | .nested _ _ (some object), h => by
    refine ⟨fun _ hkind => (nomatch hkind), fun x hx => h x ?_⟩
    exact List.mem_flatMap.mpr ⟨object, List.mem_singleton_self object, hx⟩
  | .single _ _ _, h => ⟨fun _ hkind => (nomatch hkind), h⟩

theorem restores (hlimit : limit ≤ Setting.deepest) {kind : AttributeKind Attribute}
    (hfloats : ∀ x ∈ kind.floatDefaults, Format.Survives x) :
    (format Attribute.format).Restores (limit + 1) kind := by
  obtain ⟨hleaf, hchildren⟩ := forall_floatDefaults hfloats
  have hentry : Choice.Restores limit (kind? Attribute.format) (entry Attribute.format kind) kind :=
    entry_restores (fun content hkind => Leaf.entry_restores hlimit content (hleaf content hkind))
      (Attribute.all_restore (Nat.le_succ_of_le hlimit) hchildren)
  exact hentry.choice rfl (entry_mem_names _ kind)

end AttributeKind

namespace BlockKind

/-- The floating point literals that are defaults somewhere in a kind. -/
def floatDefaults : BlockKind Attribute Block → List Float
  | .nested _ _ object => object.toList.flatMap BlockObject.floatDefaults
  | .single _ _ attributes blocks =>
    floatDefaultsOfAttributes attributes ++ floatDefaultsOfBlocks blocks

theorem entry_mem_names {α β : Type} (child : Format α) (block : Format β) :
    ∀ kind : BlockKind α β, (entry child block kind).1 ∈ names
  | .nested shape _ _ => by
    cases shape <;> exact List.contains_iff_mem.mp rfl
  | .single _ _ _ _ => List.contains_iff_mem.mp rfl

/-- The defaults of a kind are those of the attributes and of the blocks inside it. -/
theorem forall_floatDefaults {p : Float → Prop} : ∀ {kind : BlockKind Attribute Block},
    (∀ x ∈ kind.floatDefaults, p x) → (∀ x ∈ floatDefaultsOfAttributes kind.attributes, p x) ∧
      ∀ x ∈ floatDefaultsOfBlocks kind.blocks, p x
  | .nested _ _ none, _ =>
    ⟨fun _ hx => absurd hx List.not_mem_nil, fun _ hx => absurd hx List.not_mem_nil⟩
  | .nested _ _ (some object), h => List.forall_mem_append.mp fun x hx =>
    h x (List.mem_flatMap.mpr ⟨object, List.mem_singleton_self object, hx⟩)
  | .single _ _ _ _, h => List.forall_mem_append.mp h

theorem restores (hlimit : limit ≤ Setting.deepest) {kind : BlockKind Attribute Block}
    (hfloats : ∀ x ∈ kind.floatDefaults, Format.Survives x) :
    (format Attribute.format Block.format).Restores (limit + 1) kind := by
  have hroom : limit ≤ Setting.deepest + 1 := Nat.le_succ_of_le hlimit
  obtain ⟨hattributes, hblocks⟩ := forall_floatDefaults hfloats
  have hentry : Choice.Restores limit (kind? Attribute.format Block.format)
      (entry Attribute.format Block.format kind) kind :=
    entry_restores (Attribute.all_restore hroom hattributes) (Block.all_restore hroom hblocks)
  exact hentry.choice rfl (entry_mem_names _ _ kind)

end BlockKind

/-! ### Documents -/

def Schema.floatDefaults (schema : Schema) : List Float :=
  floatDefaultsOfAttributes schema.attributes ++ floatDefaultsOfBlocks schema.blocks

def Resource.floatDefaults (resource : Resource) : List Float :=
  resource.schema.toList.flatMap Schema.floatDefaults

def Specification.floatDefaults (specification : Specification) : List Float :=
  specification.resources.flatMap Resource.floatDefaults

theorem Schema.restores (hlimit : limit ≤ Setting.deepest + 1) {schema : Schema}
    (hfloats : ∀ x ∈ schema.floatDefaults, Format.Survives x) :
    record.format.Restores limit schema := by
  obtain ⟨hattributes, hblocks⟩ := List.forall_mem_append.mp hfloats
  exact Record.restores
    (.cons (.defaulted (Format.list_restores (Attribute.all_restore hlimit hattributes))) <|
      .cons (.defaulted (Format.list_restores (Block.all_restore hlimit hblocks))) <|
      .cons (.optional (fun _ _ => Format.string_restores _) rfl) <|
      .cons (.optional (fun _ _ => Format.string_restores _) rfl) .nil)
    (by decide)

theorem Resource.restores (hlimit : limit ≤ Setting.deepest + 1) {resource : Resource}
    (hfloats : ∀ x ∈ resource.floatDefaults, Format.Survives x) :
    record.format.Restores limit resource := by
  have hschema : ∀ schema ∈ resource.schema, Schema.record.format.Restores limit schema :=
    fun schema hschema => Schema.restores hlimit fun x hx =>
      hfloats x (List.mem_flatMap.mpr ⟨schema, Option.mem_toList.mpr hschema, hx⟩)
  exact Record.restores
    (.cons (.mandatory (Format.string_restores _)) <| .cons (.optional hschema rfl) .nil)
    (by decide)

theorem Specification.restores (hlimit : limit ≤ Setting.deepest + 1)
    {specification : Specification}
    (hfloats : ∀ x ∈ specification.floatDefaults, Format.Survives x) :
    record.format.Restores limit specification := by
  have hresources : ∀ resource ∈ specification.resources,
      Resource.record.format.Restores limit resource := fun resource hresource =>
    Resource.restores hlimit fun x hx =>
      hfloats x (List.mem_flatMap.mpr ⟨resource, hresource, hx⟩)
  exact Record.restores
    (.cons (.optional (fun _ _ => Format.string_restores _) rfl) <|
      .cons (.defaulted (Format.list_restores hresources)) .nil)
    (by decide)

/-! ### All types -/

/-- Values without floating point defaults. -/
def noFloats {α : Type} (_ : α) : List Float := []

/-- The types of a specification: the format of each, and the floating point defaults in its
values. -/
inductive SpecificationType : {α : Type} → Format α → (α → List Float) → Prop
  | specification : SpecificationType Specification.record.format Specification.floatDefaults
  | resource : SpecificationType Resource.record.format Resource.floatDefaults
  | schema : SpecificationType Schema.record.format Schema.floatDefaults
  | namedAttribute : SpecificationType Attribute.format Attribute.floatDefaults
  | attributeKind :
    SpecificationType (AttributeKind.format Attribute.format) AttributeKind.floatDefaults
  | boolAttribute : SpecificationType (Leaf.scalarRecord Format.bool).format noFloats
  | float64Attribute :
    SpecificationType (Leaf.scalarRecord Format.float).format AttributeFacets.floatDefaults
  | int64Attribute : SpecificationType (Leaf.scalarRecord Format.int64).format noFloats
  | numberAttribute : SpecificationType (Leaf.scalarRecord Format.never).format noFloats
  | stringAttribute : SpecificationType (Leaf.scalarRecord Format.string).format noFloats
  | collectionAttribute : SpecificationType Leaf.collectionRecord.format noFloats
  | objectAttribute : SpecificationType Leaf.objectRecord.format noFloats
  | nestedAttribute :
    SpecificationType (AttributeKind.nestedRecord Attribute.format).format
      fun content => content.2.toList.flatMap AttributeObject.floatDefaults
  | attributeObject :
    SpecificationType (AttributeObject.record Attribute.format).format
      AttributeObject.floatDefaults
  | singleAttribute :
    SpecificationType (AttributeKind.singleRecord Attribute.format).format
      fun content => floatDefaultsOfAttributes content.2.2
  | namedBlock : SpecificationType Block.format Block.floatDefaults
  | blockKind :
    SpecificationType (BlockKind.format Attribute.format Block.format) BlockKind.floatDefaults
  | nestedBlock :
    SpecificationType (BlockKind.nestedRecord Attribute.format Block.format).format
      fun content => content.2.toList.flatMap BlockObject.floatDefaults
  | blockObject :
    SpecificationType (BlockObject.record Attribute.format Block.format).format
      BlockObject.floatDefaults
  | singleBlock :
    SpecificationType (BlockKind.singleRecord Attribute.format Block.format).format
      fun content =>
        floatDefaultsOfAttributes content.2.2.1 ++ floatDefaultsOfBlocks content.2.2.2
  | elementType : SpecificationType ElementType.format noFloats
  | scalarElement : SpecificationType ElementType.scalarRecord.format noFloats
  | collectionElement :
    SpecificationType (ElementType.collectionRecord ElementType.format).format noFloats
  | objectElement :
    SpecificationType (ElementType.objectRecord ElementType.attributeFormat).format noFloats
  | objectAttributeType : SpecificationType ElementType.attributeFormat noFloats
  | boolDefault : SpecificationType (Default.record Format.bool).format noFloats
  | float64Default :
    SpecificationType (Default.record Format.float).format fun default => default.literal.toList
  | int64Default : SpecificationType (Default.record Format.int64).format noFloats
  | stringDefault : SpecificationType (Default.record Format.string).format noFloats
  | customDefault : SpecificationType (Default.record Format.never).format noFloats
  | noLiteral : SpecificationType Format.never noFloats
  | validator : SpecificationType Extension.validator.format noFloats
  | planModifier : SpecificationType Extension.planModifier.format noFloats
  | definition : SpecificationType Definition.record.format noFloats
  | customType : SpecificationType CustomType.record.format noFloats
  | externalType : SpecificationType ExternalType.record.format noFloats
  | importType : SpecificationType Import.record.format noFloats
  | mode : SpecificationType Mode.format noFloats

/-- Every type of a specification restores the values of which the floating point defaults
survive. -/
theorem SpecificationType.restores {α : Type} {format : Format α} {floats : α → List Float}
    (h : SpecificationType format floats) {a : α} (hfloats : ∀ x ∈ floats a, Format.Survives x) :
    format.Restores Setting.deepest a := by
  have hroom : Setting.deepest ≤ Setting.deepest + 1 := Nat.le_succ _
  have hfull : Setting.deepest ≤ Setting.deepest := Nat.le_refl _
  cases h with
  | specification => exact Specification.restores hroom hfloats
  | resource => exact Resource.restores hroom hfloats
  | schema => exact Schema.restores hroom hfloats
  | namedAttribute => exact Attribute.restores hroom hfloats
  | attributeKind => exact (AttributeKind.restores hfull hfloats).mono hroom
  | boolAttribute => exact Leaf.scalarRecord_restores fun _ _ _ _ => Format.bool_restores _
  | float64Attribute =>
    exact Leaf.scalarRecord_restores fun _ hd x hx =>
      Format.float_restores (hfloats x (AttributeFacets.mem_floatDefaults hd hx))
  | int64Attribute => exact Leaf.scalarRecord_restores fun _ _ _ _ => Format.int64_restores _
  | numberAttribute => exact Leaf.scalarRecord_restores fun _ _ _ _ => Format.never_restores _
  | stringAttribute => exact Leaf.scalarRecord_restores fun _ _ _ _ => Format.string_restores _
  | collectionAttribute => exact Leaf.collectionRecord_restores hfull a
  | objectAttribute => exact Leaf.objectRecord_restores hfull a
  | nestedAttribute =>
    exact AttributeKind.nestedRecord_restores fun object hobject =>
      Attribute.all_restore hroom fun x hx =>
        hfloats x (List.mem_flatMap.mpr ⟨object, Option.mem_toList.mpr hobject, hx⟩)
  | attributeObject => exact AttributeObject.restores (Attribute.all_restore hroom hfloats)
  | singleAttribute => exact AttributeKind.singleRecord_restores (Attribute.all_restore hroom hfloats)
  | namedBlock => exact Block.restores hroom hfloats
  | blockKind => exact (BlockKind.restores hfull hfloats).mono hroom
  | nestedBlock =>
    have hobject : ∀ object ∈ a.2, ∀ x ∈ object.floatDefaults, Format.Survives x :=
      fun object hobject x hx =>
        hfloats x (List.mem_flatMap.mpr ⟨object, Option.mem_toList.mpr hobject, hx⟩)
    exact BlockKind.nestedRecord_restores
      (fun object h => Attribute.all_restore hroom (List.forall_mem_append.mp (hobject object h)).1)
      (fun object h => Block.all_restore hroom (List.forall_mem_append.mp (hobject object h)).2)
  | blockObject =>
    obtain ⟨hattributes, hblocks⟩ := List.forall_mem_append.mp hfloats
    exact BlockObject.restores (Attribute.all_restore hroom hattributes)
      (Block.all_restore hroom hblocks)
  | singleBlock =>
    obtain ⟨hattributes, hblocks⟩ := List.forall_mem_append.mp hfloats
    exact BlockKind.singleRecord_restores (Attribute.all_restore hroom hattributes)
      (Block.all_restore hroom hblocks)
  | elementType => exact ElementType.restores hfull a
  | scalarElement => exact ElementType.scalarRecord_restores a
  | collectionElement => exact ElementType.collectionRecord_restores (ElementType.restores hfull _)
  | objectElement =>
    exact ElementType.objectRecord_restores fun _ _ => ElementType.attribute_restores hfull _
  | objectAttributeType => exact ElementType.attribute_restores hfull a
  | boolDefault => exact Default.restores fun _ _ => Format.bool_restores _
  | float64Default =>
    exact Default.restores fun x hx =>
      Format.float_restores (hfloats x (Option.mem_toList.mpr hx))
  | int64Default => exact Default.restores fun _ _ => Format.int64_restores _
  | stringDefault => exact Default.restores fun _ _ => Format.string_restores _
  | customDefault => exact Default.restores fun _ _ => Format.never_restores _
  | noLiteral => exact Format.never_restores a
  | validator => exact Extension.restores _ a
  | planModifier => exact Extension.restores _ a
  | definition => exact Definition.restores a
  | customType => exact CustomType.restores a
  | externalType => exact ExternalType.restores a
  | importType => exact Import.restores a
  | mode => exact Mode.restores a

/-- A value of any type of a specification is read back from the text written for it, exactly as it
was, if its floating point defaults survive and the text is not nested deeper than documents may
be. -/
theorem readText_writeText {α : Type} {format : Format α} {floats : α → List Float}
    (htype : SpecificationType format floats) (a : α)
    (hfloats : ∀ x ∈ floats a, Format.Survives x)
    (hdepth : (format.write a).depth ≤ Setting.deepest) :
    format.readText (format.writeText a) = .ok a :=
  (htype.restores hfloats).readText hdepth

/-- One half is printed and read as it is. -/
theorem survives_half : Format.Survives 0.5 := by
  have htext : Value.floatText 0.5 = "0.5" := by decide +kernel
  have hscan : Token.scan "0.5".toList = [.number { whole := [0], fraction := [5] }] :=
    (Token.scan_cons rfl rfl).trans (congrArg _ Token.scan_nil)
  have hdocument : Document.ofText "0.5" = ⟨.number { whole := [0], fraction := [5] }, false⟩ := by
    rw [Document.ofText, hscan]
    rfl
  change Format.float.readText (Value.floatText 0.5) = .ok 0.5
  rw [htext, Format.readText, hdocument]
  rfl

/-- A resource with a nested attribute: one float default, one default that is empty, and names and
texts with characters that are escaped. -/
def ratioSpecification : Specification where
  resources := [{
    name := "gauge"
    schema := some {
      attributes := [.mk "levels" (.nested .list { mode := .required } (some {
        attributes := [
          .mk "ratio" (.leaf (.float64 {
            mode := .optional, default := some { literal := some 0.5 } })),
          .mk "quoted \"name\"\n" (.leaf (.string {
            mode := .computed, description := some "\\ and é", default := some {} }))] }))]
      blocks := [.mk "rule" (.nested .set {} none)] } }]

/-- The specification is read back from its text, floating point default and all. -/
theorem readText_writeText_ratio :
    (∀ x ∈ ratioSpecification.floatDefaults, Format.Survives x) ∧
    (Specification.record.format.write ratioSpecification).depth ≤ Setting.deepest ∧
    Specification.record.format.readText (Specification.record.format.writeText ratioSpecification) =
      .ok ratioSpecification := by
  have hfloats : ∀ x ∈ ratioSpecification.floatDefaults, Format.Survives x := by
    change ∀ x ∈ [0.5], Format.Survives x
    intro x hx
    rw [List.mem_singleton.mp hx]
    exact survives_half
  have hdepth : (Specification.record.format.write ratioSpecification).depth ≤ Setting.deepest := by
    decide
  exact ⟨hfloats, hdepth, readText_writeText .specification ratioSpecification hfloats hdepth⟩

end ProviderCode
