import ProviderCode.Proofs.AttributeRoundTrip

/-!
# Reading written blocks

Blocks are read as attributes are: the contents of the kinds are restored given that the attributes
and blocks inside them are, and the depth up to which blocks are read is enough.
-/

namespace ProviderCode

open Json (Value)

variable {α β : Type} {limit : Nat}

mutual

/-- The floating point literals that are defaults somewhere in a block. -/
def Block.floatDefaults : Block → List Float
  | .mk _ (.nested _ _ none) => []
  | .mk _ (.nested _ _ (some ⟨_, attributes, blocks⟩)) =>
    floatDefaultsOfAttributes attributes ++ floatDefaultsOfBlocks blocks
  | .mk _ (.single _ _ attributes blocks) =>
    floatDefaultsOfAttributes attributes ++ floatDefaultsOfBlocks blocks
termination_by structural b => b

def floatDefaultsOfBlocks : List Block → List Float
  | [] => []
  | b :: bs => b.floatDefaults ++ floatDefaultsOfBlocks bs
termination_by structural bs => bs

end

/-! ### Contents of the kinds -/

/-- The object of a nested block is restored if its attributes and blocks are. -/
theorem BlockObject.restores {child : Format α} {block : Format β} {object : BlockObject α β}
    (hattributes : ∀ a ∈ object.attributes, child.Restores limit a)
    (hblocks : ∀ b ∈ object.blocks, block.Restores limit b) :
    (record child block).format.Restores limit object :=
  Record.restores
    (.cons (.within (.optional (fun _ _ => ExternalType.restores _) rfl) (fun _ => rfl) rfl) <|
      .cons (.defaulted (Format.list_restores hattributes)) <|
      .cons (.defaulted (Format.list_restores hblocks)) <|
      .cons (.within (.optional (fun _ _ => CustomType.restores _) rfl) (fun _ => rfl) rfl) <|
      .cons (.within (.list (fun _ _ => Extension.restores _ _) rfl) (fun _ => rfl) rfl) <|
      .cons (.within (.list (fun _ _ => Extension.restores _ _) rfl) (fun _ => rfl) rfl) .nil)
    (by
      change List.Nodup ["associated_external_type", "attributes", "blocks", "custom_type",
        "plan_modifiers", "validators"]
      decide)

namespace BlockKind

/-- The attributes inside a block. -/
def attributes : BlockKind α β → List α
  | .nested _ _ none => []
  | .nested _ _ (some object) => object.attributes
  | .single _ _ attributes _ => attributes

/-- The blocks inside a block. -/
def blocks : BlockKind α β → List β
  | .nested _ _ none => []
  | .nested _ _ (some object) => object.blocks
  | .single _ _ _ blocks => blocks

variable {child : Format α} {block : Format β}

theorem nestedRecord_restores {content : BlockFacets × Option (BlockObject α β)}
    (hattributes : ∀ object ∈ content.2, ∀ a ∈ object.attributes, child.Restores limit a)
    (hblocks : ∀ object ∈ content.2, ∀ b ∈ object.blocks, block.Restores limit b) :
    (nestedRecord child block).format.Restores limit content :=
  Record.restores
    (BlockFacets.refill_before.fst.append <|
      .cons (.optional (fun object hobject =>
          BlockObject.restores (hattributes object hobject) (hblocks object hobject)) rfl)
        BlockFacets.refill_after.fst)
    (by
      change List.Nodup ["computed_optional_required", "custom_type", "deprecation_message",
        "description", "nested_object", "plan_modifiers", "sensitive", "validators"]
      decide)

theorem singleRecord_restores {content : BlockFacets × Option ExternalType × List α × List β}
    (hattributes : ∀ a ∈ content.2.2.1, child.Restores limit a)
    (hblocks : ∀ b ∈ content.2.2.2, block.Restores limit b) :
    (singleRecord child block).format.Restores limit content :=
  Record.restores
    (.cons (.optional (fun _ _ => ExternalType.restores _) rfl) <|
      .cons (.defaulted (Format.list_restores hattributes)) <|
      .cons (.defaulted (Format.list_restores hblocks)) <|
      (BlockFacets.refill_before.append BlockFacets.refill_after).fst)
    (by
      change List.Nodup ["associated_external_type", "attributes", "blocks",
        "computed_optional_required", "custom_type", "deprecation_message", "description",
        "plan_modifiers", "sensitive", "validators"]
      decide)

theorem kind?_nested : ∀ shape : BlockShape,
    kind? child block (nestedName shape) = some (readNested child block shape)
  | .list | .set => rfl

theorem kind?_name : kind? child block "name" = none := rfl

/-- A kind is restored if the attributes and blocks inside it are. -/
theorem entry_restores : ∀ {kind : BlockKind α β},
    (∀ a ∈ kind.attributes, child.Restores limit a) →
    (∀ b ∈ kind.blocks, block.Restores limit b) →
      Choice.Restores limit (kind? child block) (entry child block kind) kind
  | .nested shape _ none, _, _ =>
    .of_format (nestedRecord_restores nofun nofun) (kind?_nested shape) fun _ _ h =>
      bind_eq_ok.mpr ⟨_, h, rfl⟩
  | .nested shape _ (some _), hattributes, hblocks =>
    .of_format
      (nestedRecord_restores (fun _ hobject => by cases hobject; exact hattributes)
        (fun _ hobject => by cases hobject; exact hblocks))
      (kind?_nested shape) fun _ _ h => bind_eq_ok.mpr ⟨_, h, rfl⟩
  | .single _ _ _ _, hattributes, hblocks =>
    .of_format (singleRecord_restores hattributes hblocks) rfl fun _ _ h =>
      bind_eq_ok.mpr ⟨_, h, rfl⟩

/-! ### Kinds of written blocks -/

/-- The object with its attributes and blocks written beforehand. -/
def writtenObject (child : Format α) (block : Format β) (object : BlockObject α β) :
    BlockObject Value Value :=
  ⟨object.toObjectFacets, object.attributes.map child.write, object.blocks.map block.write⟩

theorem objectRecord_write_value (child : Format α) (block : Format β) (object : BlockObject α β) :
    (BlockObject.record Format.value Format.value).write (writtenObject child block object) =
      (BlockObject.record child block).write object :=
  Record.write_congr <|
    .cons ⟨rfl, rfl⟩ <| .cons ⟨rfl, congrArg some (child.write_list_value object.attributes)⟩ <|
    .cons ⟨rfl, congrArg some (block.write_list_value object.blocks)⟩ <|
    .cons ⟨rfl, rfl⟩ <| .cons ⟨rfl, rfl⟩ <| .cons ⟨rfl, rfl⟩ .nil

theorem nestedRecord_write_value (child : Format α) (block : Format β) (facets : BlockFacets)
    (object : Option (BlockObject α β)) :
    (nestedRecord Format.value Format.value).write
        (facets, object.map (writtenObject child block)) =
      (nestedRecord child block).write (facets, object) := by
  have hobject : (object.map (writtenObject child block)).map
      (BlockObject.record Format.value Format.value).write =
        object.map (BlockObject.record child block).write := by
    rw [Option.map_map]
    exact congrArg (object.map ·) (funext (objectRecord_write_value child block))
  exact Record.write_congr <|
    List.rel_append (Field.writesSame_fst facets _ _ _) <|
      .cons ⟨rfl, hobject⟩ (Field.writesSame_fst facets _ _ _)

theorem singleRecord_write_value (child : Format α) (block : Format β) (facets : BlockFacets)
    (external : Option ExternalType) (attributes : List α) (blocks : List β) :
    (singleRecord Format.value Format.value).write
        (facets, external, attributes.map child.write, blocks.map block.write) =
      (singleRecord child block).write (facets, external, attributes, blocks) :=
  Record.write_congr <|
    .cons ⟨rfl, rfl⟩ <| .cons ⟨rfl, congrArg some (child.write_list_value attributes)⟩ <|
    .cons ⟨rfl, congrArg some (block.write_list_value blocks)⟩ <|
      Field.writesSame_fst facets _ _ _

end BlockKind

/-! ### Blocks inside each other -/

namespace Block

theorem writeBlocks_eq_map : ∀ blocks, writeBlocks blocks = blocks.map write
  | [] => rfl
  | b :: blocks => congrArg (b.write :: ·) (writeBlocks_eq_map blocks)

/-- A block is written as its name and the entry of its kind. -/
theorem write_mk (read : Reader Block) (name : String) : ∀ kind : BlockKind Attribute Block,
    (Block.mk name kind).write =
      tagged name (BlockKind.entry Attribute.format ⟨read, write⟩ kind)
  | .nested _ facets none =>
    congrArg (fun content => tagged name (_, content)) <|
      BlockKind.nestedRecord_write_value Attribute.format ⟨read, write⟩ facets none
  | .nested _ facets (some ⟨object, attributes, blocks⟩) => by
    rw [write, Attribute.writeAttributes_eq_map, writeBlocks_eq_map]
    refine congrArg (fun content => tagged name (_, content)) ?_
    exact BlockKind.nestedRecord_write_value Attribute.format ⟨read, write⟩ facets
      (some ⟨object, attributes, blocks⟩)
  | .single facets external attributes blocks => by
    rw [write, Attribute.writeAttributes_eq_map, writeBlocks_eq_map]
    refine congrArg (fun content => tagged name (_, content)) ?_
    exact BlockKind.singleRecord_write_value Attribute.format ⟨read, write⟩ facets external
      attributes blocks

/-- A block is restored if the attributes and blocks inside it are. -/
theorem restores_mk {name : String} {kind : BlockKind Attribute Block}
    (hattributes : ∀ x ∈ floatDefaultsOfAttributes kind.attributes, Format.Survives x)
    (hblocks : ∀ b ∈ kind.blocks, ∀ depth ≤ Setting.deepest + 1,
      Format.Restores depth ⟨readTo depth, write⟩ b)
    {depth : Nat} (hdepth : depth ≤ Setting.deepest + 1) :
    Format.Restores depth ⟨readTo depth, write⟩ (.mk name kind) := by
  refine Tagged.restores_to (fun _ _ _ => rfl) (fun depth => write_mk (readTo depth) name kind)
    (fun _ => BlockKind.kind?_name) (fun depth hdepth => ?_) hdepth
  have hlimit : depth ≤ Setting.deepest + 1 := Nat.le_succ_of_le hdepth
  exact BlockKind.entry_restores (Attribute.all_restore hlimit hattributes)
    (fun b hb => hblocks b hb depth hlimit)

mutual

theorem restores_to : ∀ b : Block, (∀ x ∈ b.floatDefaults, Format.Survives x) →
    ∀ depth ≤ Setting.deepest + 1, Format.Restores depth ⟨readTo depth, write⟩ b
  | .mk _ (.nested _ _ none), _, _, hdepth =>
    restores_mk (fun _ h => absurd h List.not_mem_nil) (fun _ h => absurd h List.not_mem_nil) hdepth
  | .mk _ (.nested _ _ (some ⟨_, attributes, blocks⟩)), hfloats, _, hdepth => by
    obtain ⟨hattributes, hblocks⟩ := List.forall_mem_append.mp hfloats
    refine restores_mk ?_ ?_ hdepth
    · exact hattributes
    · exact blocks_restore_to blocks hblocks
  | .mk _ (.single _ _ attributes blocks), hfloats, _, hdepth => by
    obtain ⟨hattributes, hblocks⟩ := List.forall_mem_append.mp hfloats
    refine restores_mk ?_ ?_ hdepth
    · exact hattributes
    · exact blocks_restore_to blocks hblocks

theorem blocks_restore_to : ∀ blocks : List Block,
    (∀ x ∈ floatDefaultsOfBlocks blocks, Format.Survives x) →
    ∀ b ∈ blocks, ∀ depth ≤ Setting.deepest + 1, Format.Restores depth ⟨readTo depth, write⟩ b
  | [], _ => fun _ h => absurd h List.not_mem_nil
  | b :: blocks, hfloats => by
    obtain ⟨hfirst, hrest⟩ := List.forall_mem_append.mp hfloats
    exact List.forall_mem_cons.mpr ⟨restores_to b hfirst, blocks_restore_to blocks hrest⟩

end

/-! ### Blocks of a document -/

theorem restores (hlimit : limit ≤ Setting.deepest + 1) {b : Block}
    (hfloats : ∀ x ∈ b.floatDefaults, Format.Survives x) : format.Restores limit b :=
  (restores_to b hfloats _ (Nat.le_refl _)).mono hlimit

theorem all_restore (hlimit : limit ≤ Setting.deepest + 1) {blocks : List Block}
    (hfloats : ∀ x ∈ floatDefaultsOfBlocks blocks, Format.Survives x) :
    ∀ b ∈ blocks, format.Restores limit b := fun b hb =>
  (blocks_restore_to blocks hfloats b hb _ (Nat.le_refl _)).mono hlimit

end Block

end ProviderCode
