import ProviderCode.Proofs.ElementTypeRoundTrip
import ProviderCode.Specification.AttributeFormat

/-!
# Reading written attributes

The contents of the kinds are restored given that the children are. Attributes are read up to a
depth, and each level of them opens more containers than it takes of the depth. How a number is
printed and read back is not certain for every number, so the floating point defaults have to survive
that.
-/

namespace ProviderCode

open Json (Value)

variable {α : Type} {limit : Nat}

/-! ### Floating point defaults -/

/-- The literal of a default, if there is one. -/
def AttributeFacets.floatDefaults (facets : AttributeFacets Float) : List Float :=
  (facets.default.bind (·.literal)).toList

theorem AttributeFacets.mem_floatDefaults {facets : AttributeFacets Float} {d : Default Float}
    {x : Float} (hd : d ∈ facets.default) (hx : x ∈ d.literal) : x ∈ facets.floatDefaults := by
  rw [floatDefaults, Option.mem_toList]
  exact Option.mem_bind_iff.mpr ⟨d, hd, hx⟩

def Leaf.floatDefaults : Leaf → List Float
  | .float64 facets => facets.floatDefaults
  | _ => []

mutual

/-- The floating point literals that are defaults somewhere in an attribute. -/
def Attribute.floatDefaults : Attribute → List Float
  | .mk _ (.leaf leaf) => leaf.floatDefaults
  | .mk _ (.nested _ _ none) => []
  | .mk _ (.nested _ _ (some ⟨_, attributes⟩)) => floatDefaultsOfAttributes attributes
  | .mk _ (.single _ _ attributes) => floatDefaultsOfAttributes attributes
termination_by structural a => a

def floatDefaultsOfAttributes : List Attribute → List Float
  | [] => []
  | a :: as => a.floatDefaults ++ floatDefaultsOfAttributes as
termination_by structural as => as

end

namespace Leaf

theorem scalarRecord_restores {τ : Type} {literal : Format τ} {facets : AttributeFacets τ}
    (h : ∀ d ∈ facets.default, ∀ x ∈ d.literal, literal.Restores limit x) :
    (scalarRecord literal).format.Restores limit facets :=
  Record.restores ((AttributeFacets.refill_before h).append AttributeFacets.refill_after) (by
    change List.Nodup ["computed_optional_required", "custom_type", "default",
      "deprecation_message", "description", "plan_modifiers", "sensitive", "validators"]
    decide)

theorem collectionRecord_restores (hlimit : limit ≤ Setting.deepest)
    (content : AttributeFacets Empty × Option ElementType) :
    collectionRecord.format.Restores limit content :=
  Record.restores
    ((AttributeFacets.refill_before fun _ _ _ _ => Format.never_restores _).fst.append <|
      .cons (.optional (fun _ _ => ElementType.restores hlimit _) rfl)
        AttributeFacets.refill_after.fst)
    (by decide)

theorem objectRecord_restores (hlimit : limit ≤ Setting.deepest)
    (content : AttributeFacets Empty × Option (List (String × ElementType))) :
    objectRecord.format.Restores limit content :=
  Record.restores
    (.cons (.optional (fun _ _ =>
        Format.list_restores fun _ _ => ElementType.attribute_restores hlimit _) rfl) <|
      ((AttributeFacets.refill_before fun _ _ _ _ => Format.never_restores _).append
        AttributeFacets.refill_after).fst)
    (by decide)

theorem kind?_shape : ∀ shape : Shape, kind? shape.name = some fun s tree => do
    let (facets, element) ← collectionRecord.read s tree
    return .collection shape facets element
  | .list | .map | .set => rfl

theorem entry_restores (hlimit : limit ≤ Setting.deepest) : ∀ leaf : Leaf,
    (∀ x ∈ leaf.floatDefaults, Format.Survives x) → Choice.Restores limit kind? leaf.entry leaf
  | .bool _, _ =>
    .of_format (scalarRecord_restores fun _ _ _ _ => Format.bool_restores _) rfl fun _ _ h =>
      map_eq_ok.mpr ⟨_, h, rfl⟩
  | .float64 _, hfloats =>
    .of_format (scalarRecord_restores fun _ hd x hx => Format.float_restores <|
        hfloats x (AttributeFacets.mem_floatDefaults hd hx)) rfl fun _ _ h =>
      map_eq_ok.mpr ⟨_, h, rfl⟩
  | .int64 _, _ =>
    .of_format (scalarRecord_restores fun _ _ _ _ => Format.int64_restores _) rfl fun _ _ h =>
      map_eq_ok.mpr ⟨_, h, rfl⟩
  | .number _, _ =>
    .of_format (scalarRecord_restores fun _ _ _ _ => Format.never_restores _) rfl fun _ _ h =>
      map_eq_ok.mpr ⟨_, h, rfl⟩
  | .string _, _ =>
    .of_format (scalarRecord_restores fun _ _ _ _ => Format.string_restores _) rfl fun _ _ h =>
      map_eq_ok.mpr ⟨_, h, rfl⟩
  | .collection shape _ _, _ =>
    .of_format (collectionRecord_restores hlimit _) (kind?_shape shape) fun _ _ h =>
      bind_eq_ok.mpr ⟨_, h, rfl⟩
  | .object _ _, _ =>
    .of_format (objectRecord_restores hlimit _) rfl fun _ _ h => bind_eq_ok.mpr ⟨_, h, rfl⟩

end Leaf

/-! ### Attributes -/

/-- The object of a nested attribute is restored if its attributes are. -/
theorem AttributeObject.restores {child : Format α} {object : AttributeObject α}
    (h : ∀ a ∈ object.attributes, child.Restores limit a) :
    (record child).format.Restores limit object :=
  Record.restores
    (.cons (.within (.optional (fun _ _ => ExternalType.restores _) rfl) (fun _ => rfl) rfl) <|
      .cons (.defaulted (Format.list_restores h)) <|
      .cons (.within (.optional (fun _ _ => CustomType.restores _) rfl) (fun _ => rfl) rfl) <|
      .cons (.within (.list (fun _ _ => Extension.restores _ _) rfl) (fun _ => rfl) rfl) <|
      .cons (.within (.list (fun _ _ => Extension.restores _ _) rfl) (fun _ => rfl) rfl) .nil)
    (by
      change List.Nodup ["associated_external_type", "attributes", "custom_type",
        "plan_modifiers", "validators"]
      decide)

namespace AttributeKind

/-- The attributes inside an attribute. -/
def children : AttributeKind α → List α
  | .leaf _ | .nested _ _ none => []
  | .nested _ _ (some object) => object.attributes
  | .single _ _ attributes => attributes

variable {child : Format α}

theorem nestedRecord_restores {content : AttributeFacets Empty × Option (AttributeObject α)}
    (h : ∀ object ∈ content.2, ∀ a ∈ object.attributes, child.Restores limit a) :
    (nestedRecord child).format.Restores limit content :=
  Record.restores
    ((AttributeFacets.refill_before fun _ _ _ _ => Format.never_restores _).fst.append <|
      .cons (.optional (fun object hobject => AttributeObject.restores (h object hobject)) rfl)
        AttributeFacets.refill_after.fst)
    (by
      change List.Nodup ["computed_optional_required", "custom_type", "default",
        "deprecation_message", "description", "nested_object", "plan_modifiers", "sensitive",
        "validators"]
      decide)

theorem singleRecord_restores {content : AttributeFacets Empty × Option ExternalType × List α}
    (h : ∀ a ∈ content.2.2, child.Restores limit a) :
    (singleRecord child).format.Restores limit content :=
  Record.restores
    (.cons (.optional (fun _ _ => ExternalType.restores _) rfl) <|
      .cons (.defaulted (Format.list_restores h)) <|
      ((AttributeFacets.refill_before fun _ _ _ _ => Format.never_restores _).append
        AttributeFacets.refill_after).fst)
    (by
      change List.Nodup ["associated_external_type", "attributes", "computed_optional_required",
        "custom_type", "default", "deprecation_message", "description", "plan_modifiers",
        "sensitive", "validators"]
      decide)

theorem kind?_nested : ∀ shape : Shape,
    kind? child (nestedName shape) = some (readNested child shape)
  | .list | .map | .set => rfl

/-- A leaf is found under its own name, which is not the name of a nested kind. -/
theorem kind?_leaf : ∀ leaf : Leaf, kind? child leaf.entry.1 =
    (Leaf.kind? leaf.entry.1).map fun reader s tree => .leaf <$> reader s tree
  | .bool _ | .float64 _ | .int64 _ | .number _ | .string _ => rfl
  | .collection .list _ _ | .collection .map _ _ | .collection .set _ _ | .object _ _ => rfl

theorem leaf_restores {leaf : Leaf} (h : Choice.Restores limit Leaf.kind? leaf.entry leaf) :
    Choice.Restores limit (kind? child) leaf.entry (.leaf leaf) := by
  refine ⟨h.readable, fun s hs => ?_⟩
  obtain ⟨reader, hreader, hread⟩ := h.read_eq s hs
  refine ⟨fun s tree => .leaf <$> reader s tree, ?_, map_eq_ok.mpr ⟨leaf, hread, rfl⟩⟩
  rw [kind?_leaf, hreader]
  rfl

/-- A kind is restored if its leaf is, or if the attributes inside it are. -/
theorem entry_restores : ∀ {kind : AttributeKind α},
    (∀ leaf, kind = .leaf leaf → Choice.Restores limit Leaf.kind? leaf.entry leaf) →
    (∀ a ∈ kind.children, child.Restores limit a) →
      Choice.Restores limit (kind? child) (entry child kind) kind
  | .leaf content, hleaf, _ => leaf_restores (hleaf content rfl)
  | .nested shape _ none, _, _ =>
    .of_format (nestedRecord_restores nofun) (kind?_nested shape) fun _ _ h =>
      bind_eq_ok.mpr ⟨_, h, rfl⟩
  | .nested shape _ (some _), _, hchildren =>
    .of_format (nestedRecord_restores fun _ hobject => by cases hobject; exact hchildren)
      (kind?_nested shape) fun _ _ h => bind_eq_ok.mpr ⟨_, h, rfl⟩
  | .single _ _ _, _, hchildren =>
    .of_format (singleRecord_restores hchildren) rfl fun _ _ h => bind_eq_ok.mpr ⟨_, h, rfl⟩

theorem kind?_name : kind? child "name" = none := rfl

/-! ### Kinds of written attributes -/

/-- The object with its attributes written beforehand. -/
def writtenObject (child : Format α) (object : AttributeObject α) : AttributeObject Value :=
  ⟨object.toObjectFacets, object.attributes.map child.write⟩

theorem objectRecord_write_value (child : Format α) (object : AttributeObject α) :
    (AttributeObject.record Format.value).write (writtenObject child object) =
      (AttributeObject.record child).write object :=
  Record.write_congr <|
    .cons ⟨rfl, rfl⟩ <| .cons ⟨rfl, congrArg some (child.write_list_value object.attributes)⟩ <|
    .cons ⟨rfl, rfl⟩ <| .cons ⟨rfl, rfl⟩ <| .cons ⟨rfl, rfl⟩ .nil

theorem nestedRecord_write_value (child : Format α) (facets : AttributeFacets Empty)
    (object : Option (AttributeObject α)) :
    (nestedRecord Format.value).write (facets, object.map (writtenObject child)) =
      (nestedRecord child).write (facets, object) := by
  have hobject : (object.map (writtenObject child)).map
      (AttributeObject.record Format.value).write =
        object.map (AttributeObject.record child).write := by
    rw [Option.map_map]
    exact congrArg (object.map ·) (funext (objectRecord_write_value child))
  exact Record.write_congr <|
    List.rel_append (Field.writesSame_fst facets _ _ _) <|
      .cons ⟨rfl, hobject⟩ (Field.writesSame_fst facets _ _ _)

theorem singleRecord_write_value (child : Format α) (facets : AttributeFacets Empty)
    (external : Option ExternalType) (attributes : List α) :
    (singleRecord Format.value).write (facets, external, attributes.map child.write) =
      (singleRecord child).write (facets, external, attributes) :=
  Record.write_congr <|
    .cons ⟨rfl, rfl⟩ <| .cons ⟨rfl, congrArg some (child.write_list_value attributes)⟩ <|
      Field.writesSame_fst facets _ _ _

end AttributeKind

namespace Attribute

theorem writeAttributes_eq_map : ∀ attributes, writeAttributes attributes = attributes.map write
  | [] => rfl
  | a :: attributes => congrArg (a.write :: ·) (writeAttributes_eq_map attributes)

/-- An attribute is written as its name and the entry of its kind. -/
theorem write_mk (read : Reader Attribute) (name : String) : ∀ kind : AttributeKind Attribute,
    (Attribute.mk name kind).write = tagged name (AttributeKind.entry ⟨read, write⟩ kind)
  | .leaf _ => rfl
  | .nested _ facets none =>
    congrArg (fun content => tagged name (_, content)) <|
      AttributeKind.nestedRecord_write_value ⟨read, write⟩ facets none
  | .nested _ facets (some ⟨object, attributes⟩) => by
    rw [write, writeAttributes_eq_map]
    refine congrArg (fun content => tagged name (_, content)) ?_
    exact AttributeKind.nestedRecord_write_value ⟨read, write⟩ facets (some ⟨object, attributes⟩)
  | .single facets external attributes => by
    rw [write, writeAttributes_eq_map]
    refine congrArg (fun content => tagged name (_, content)) ?_
    exact AttributeKind.singleRecord_write_value ⟨read, write⟩ facets external attributes

/-- An attribute is restored if its leaf is, or if the attributes inside it are. -/
theorem restores_mk {name : String} {kind : AttributeKind Attribute}
    (hfloats : ∀ leaf, kind = .leaf leaf → ∀ x ∈ leaf.floatDefaults, Format.Survives x)
    (hchildren : ∀ a ∈ kind.children, ∀ depth ≤ Setting.deepest + 1,
      Format.Restores depth ⟨readTo depth, write⟩ a)
    {depth : Nat} (hdepth : depth ≤ Setting.deepest + 1) :
    Format.Restores depth ⟨readTo depth, write⟩ (.mk name kind) := by
  refine Tagged.restores_to (fun _ _ _ => rfl) (fun depth => write_mk (readTo depth) name kind)
    (fun _ => AttributeKind.kind?_name) (fun depth hdepth => ?_) hdepth
  exact AttributeKind.entry_restores
    (fun leaf hleaf => Leaf.entry_restores hdepth leaf (hfloats leaf hleaf))
    (fun a ha => hchildren a ha depth (Nat.le_succ_of_le hdepth))

mutual

theorem restores_to : ∀ (a : Attribute), (∀ x ∈ a.floatDefaults, Format.Survives x) →
    ∀ depth ≤ Setting.deepest + 1, Format.Restores depth ⟨readTo depth, write⟩ a
  | .mk _ (.leaf _), hfloats, _, hdepth => by
    refine restores_mk (fun leaf hleaf => ?_) (fun _ h => absurd h List.not_mem_nil) hdepth
    cases hleaf
    exact hfloats
  | .mk _ (.nested _ _ none), _, _, hdepth => by
    refine restores_mk (fun leaf hleaf => ?_) (fun _ h => absurd h List.not_mem_nil) hdepth
    cases hleaf
  | .mk _ (.nested _ _ (some ⟨_, attributes⟩)), hfloats, _, hdepth => by
    refine restores_mk (fun leaf hleaf => ?_) ?_ hdepth
    · cases hleaf
    · exact attributes_restore_to attributes hfloats
  | .mk _ (.single _ _ attributes), hfloats, _, hdepth => by
    refine restores_mk (fun leaf hleaf => ?_) ?_ hdepth
    · cases hleaf
    · exact attributes_restore_to attributes hfloats

theorem attributes_restore_to : ∀ attributes : List Attribute,
    (∀ x ∈ floatDefaultsOfAttributes attributes, Format.Survives x) →
    ∀ a ∈ attributes, ∀ depth ≤ Setting.deepest + 1, Format.Restores depth ⟨readTo depth, write⟩ a
  | [], _ => fun _ h => absurd h List.not_mem_nil
  | a :: attributes, hfloats => by
    obtain ⟨hfirst, hrest⟩ := List.forall_mem_append.mp hfloats
    exact List.forall_mem_cons.mpr ⟨restores_to a hfirst, attributes_restore_to attributes hrest⟩

end

/-! ### Attributes of a document -/

theorem restores (hlimit : limit ≤ Setting.deepest + 1) {a : Attribute}
    (hfloats : ∀ x ∈ a.floatDefaults, Format.Survives x) : format.Restores limit a :=
  (restores_to a hfloats _ (Nat.le_refl _)).mono hlimit

theorem all_restore (hlimit : limit ≤ Setting.deepest + 1) {attributes : List Attribute}
    (hfloats : ∀ x ∈ floatDefaultsOfAttributes attributes, Format.Survives x) :
    ∀ a ∈ attributes, format.Restores limit a := fun a ha =>
  (attributes_restore_to attributes hfloats a ha _ (Nat.le_refl _)).mono hlimit

end Attribute

end ProviderCode
