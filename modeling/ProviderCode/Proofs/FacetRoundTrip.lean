import ProviderCode.Proofs.RecordRoundTrip
import ProviderCode.Specification.FacetFormat

/-!
# Reading written facets

Every facet is restored by its format; a default is if its literal is. The facets of attributes,
blocks and objects are given as two stretches of fields, with the content in between.
-/

namespace ProviderCode

variable {τ : Type} {limit : Nat}

theorem Mode.restores (mode : Mode) : Mode.format.Restores limit mode :=
  Format.names_restores (by cases mode <;> rfl)

theorem Import.restores (i : Import) : Import.record.format.Restores limit i :=
  Record.restores
    (.cons (.mandatory (Format.string_restores _)) <|
      .cons (.optional (fun _ _ => Format.string_restores _) rfl) .nil)
    (by decide)

theorem CustomType.restores (type : CustomType) : CustomType.record.format.Restores limit type :=
  Record.restores
    (.cons (.optional (fun _ _ => Import.restores _) rfl) <|
      .cons (.mandatory (Format.string_restores _)) <|
      .cons (.mandatory (Format.string_restores _)) .nil)
    (by decide)

theorem ExternalType.restores (type : ExternalType) :
    ExternalType.record.format.Restores limit type :=
  Record.restores
    (.cons (.optional (fun _ _ => Import.restores _) rfl) <|
      .cons (.mandatory (Format.string_restores _)) .nil)
    (by decide)

theorem Definition.restores (d : Definition) : Definition.record.format.Restores limit d :=
  Record.restores
    (.cons (.list (fun _ _ => Import.restores _) rfl) <|
      .cons (.mandatory (Format.string_restores _)) .nil)
    (by decide)

theorem Extension.restores (name : String) (e : Extension) :
    (Extension.record name).format.Restores limit e :=
  Record.restores (.cons (.optional (fun _ _ => Definition.restores _) rfl) .nil)
    (by change List.Nodup ["custom"]; decide)

theorem Default.restores {literal : Format τ} {d : Default τ}
    (h : ∀ x ∈ d.literal, literal.Restores limit x) :
    (Default.record literal).format.Restores limit d :=
  Record.restores
    (.cons (.optional h rfl) <| .cons (.optional (fun _ _ => Definition.restores _) rfl) .nil)
    (by change List.Nodup ["static", "custom"]; decide)

theorem Format.never_restores (x : Empty) : Format.never.Restores limit x := x.elim

/-! ### Facets together -/

namespace AttributeFacets

variable {literal : Format τ} {a : AttributeFacets τ}

/-- The facets of which the fields after the content are not read yet. -/
def begun (a : AttributeFacets τ) : AttributeFacets τ :=
  { a with planModifiers := [], sensitive := none, validators := [] }

theorem refill_before (h : ∀ d ∈ a.default, ∀ x ∈ d.literal, literal.Restores limit x) :
    Field.RefillAll limit a (fieldsBefore literal) blank a.begun :=
  .cons (.mandatory (Mode.restores _)) <|
    .cons (.within (.optional (fun _ _ => CustomType.restores _) rfl) (fun _ => rfl) rfl) <|
    .cons (.optional (fun d hd => Default.restores (h d hd)) rfl) <|
    .cons (.within (.optional (fun _ _ => Format.string_restores _) rfl) (fun _ => rfl) rfl) <|
    .cons (.within (.optional (fun _ _ => Format.string_restores _) rfl) (fun _ => rfl) rfl) .nil

theorem refill_after : Field.RefillAll limit a fieldsAfter a.begun a :=
  .cons (.within (.list (fun _ _ => Extension.restores _ _) rfl) (fun _ => rfl) rfl) <|
    .cons (.within (.optional (fun _ _ => Format.bool_restores _) rfl) (fun _ => rfl) rfl) <|
    .cons (.within (.list (fun _ _ => Extension.restores _ _) rfl) (fun _ => rfl) rfl) .nil

end AttributeFacets

namespace BlockFacets

variable {b : BlockFacets}

/-- The facets of which the fields after the content are not read yet. -/
def begun (b : BlockFacets) : BlockFacets :=
  { b with planModifiers := [], sensitive := none, validators := [] }

theorem refill_before : Field.RefillAll limit b fieldsBefore {} b.begun :=
  .cons (.optional (fun _ _ => Mode.restores _) rfl) <|
    .cons (.within (.optional (fun _ _ => CustomType.restores _) rfl) (fun _ => rfl) rfl) <|
    .cons (.within (.optional (fun _ _ => Format.string_restores _) rfl) (fun _ => rfl) rfl) <|
    .cons (.within (.optional (fun _ _ => Format.string_restores _) rfl) (fun _ => rfl) rfl) .nil

theorem refill_after : Field.RefillAll limit b fieldsAfter b.begun b :=
  .cons (.within (.list (fun _ _ => Extension.restores _ _) rfl) (fun _ => rfl) rfl) <|
    .cons (.within (.optional (fun _ _ => Format.bool_restores _) rfl) (fun _ => rfl) rfl) <|
    .cons (.within (.list (fun _ _ => Extension.restores _ _) rfl) (fun _ => rfl) rfl) .nil

end BlockFacets

end ProviderCode
