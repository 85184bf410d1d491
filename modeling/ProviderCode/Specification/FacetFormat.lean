import ProviderCode.Format.Choice
import ProviderCode.Format.Record
import ProviderCode.Specification.Facet

/-!
# Formats of facets

The written form of each facet, and of the facets of attributes, blocks and objects together.
-/

namespace ProviderCode

def Mode.name : Mode → String
  | .computed => "computed"
  | .computedOptional => "computed_optional"
  | .optional => "optional"
  | .required => "required"

def Mode.format : Format Mode :=
  .names [("computed", .computed), ("computed_optional", .computedOptional),
    ("optional", .optional), ("required", .required)] Mode.name

def Import.record : Record Import where
  name := "Import"
  blank := { path := "" }
  fields := [
    .mandatory "path" .string (·.path) fun v r => { r with path := v },
    .optional "alias" .string (·.localName) fun v r => { r with localName := v }]

def CustomType.record : Record CustomType where
  name := "CustomType"
  blank := { type := "", valueType := "" }
  fields := [
    .optional "import" Import.record.format (·.origin) fun v r => { r with origin := v },
    .mandatory "type" .string (·.type) fun v r => { r with type := v },
    .mandatory "value_type" .string (·.valueType) fun v r => { r with valueType := v }]

def ExternalType.record : Record ExternalType where
  name := "AssociatedExternalType"
  blank := { type := "" }
  fields := [
    .optional "import" Import.record.format (·.origin) fun v r => { r with origin := v },
    .mandatory "type" .string (·.type) fun v r => { r with type := v }]

def Definition.record : Record Definition where
  name := "CustomDefinition"
  blank := { expression := "" }
  fields := [
    .list "imports" Import.record.format (·.imports) fun v r => { r with imports := v },
    .mandatory "schema_definition" .string (·.expression) fun v r => { r with expression := v }]

/-- Validators and plan modifiers have the same form under different names. -/
def Extension.record (name : String) : Record Extension where
  name
  blank := {}
  fields := [
    .optional "custom" Definition.record.format (·.custom) fun v r => { r with custom := v }]

def Extension.validator : Record Extension := Extension.record "Validator"

def Extension.planModifier : Record Extension := Extension.record "PlanModifier"

def Default.record {τ : Type} (literal : Format τ) : Record (Default τ) where
  name := "DefaultValue"
  blank := {}
  fields := [
    .optional "static" literal (·.literal) fun v r => { r with literal := v },
    .optional "custom" Definition.record.format (·.custom) fun v r => { r with custom := v }]

/-- The literals of attributes that have none: a choice without alternatives. -/
def Format.never : Format Empty where
  read := Choice.read [] fun _ key _ => .error (.unknown key [])
  write := Empty.elim

/-! ### Facets together -/

namespace Facets

def customTypeField : Field Facets :=
  .optional "custom_type" CustomType.record.format (·.customType)
    fun v r => { r with customType := v }

def deprecationField : Field Facets :=
  .optional "deprecation_message" .string (·.deprecation) fun v r => { r with deprecation := v }

def descriptionField : Field Facets :=
  .optional "description" .string (·.description) fun v r => { r with description := v }

def planModifiersField : Field Facets :=
  .list "plan_modifiers" Extension.planModifier.format (·.planModifiers)
    fun v r => { r with planModifiers := v }

def sensitiveField : Field Facets :=
  .optional "sensitive" .bool (·.sensitive) fun v r => { r with sensitive := v }

def validatorsField : Field Facets :=
  .list "validators" Extension.validator.format (·.validators)
    fun v r => { r with validators := v }

end Facets

namespace AttributeFacets

variable {τ : Type}

def blank : AttributeFacets τ := { mode := .computed }

/-- A field that attributes share with blocks. -/
def shared (field : Field Facets) : Field (AttributeFacets τ) :=
  field.within (·.toFacets) fun f r => { r with toFacets := f r.toFacets }

/-- The facets' fields up to the description, which the content of the attribute follows. -/
def fieldsBefore (literal : Format τ) : List (Field (AttributeFacets τ)) := [
  .mandatory "computed_optional_required" Mode.format (·.mode) fun v r => { r with mode := v },
  shared Facets.customTypeField,
  .optional "default" (Default.record literal).format (·.default)
    fun v r => { r with default := v },
  shared Facets.deprecationField,
  shared Facets.descriptionField]

/-- The facets' fields after the content of the attribute. -/
def fieldsAfter : List (Field (AttributeFacets τ)) := [
  shared Facets.planModifiersField,
  shared Facets.sensitiveField,
  shared Facets.validatorsField]

end AttributeFacets

namespace BlockFacets

def shared (field : Field Facets) : Field BlockFacets :=
  field.within (·.toFacets) fun f r => { r with toFacets := f r.toFacets }

/-- The facets' fields up to the description, which the content of the block follows. -/
def fieldsBefore : List (Field BlockFacets) := [
  .optional "computed_optional_required" Mode.format (·.mode) fun v r => { r with mode := v },
  shared Facets.customTypeField,
  shared Facets.deprecationField,
  shared Facets.descriptionField]

/-- The facets' fields after the content of the block. -/
def fieldsAfter : List (Field BlockFacets) := [
  shared Facets.planModifiersField,
  shared Facets.sensitiveField,
  shared Facets.validatorsField]

end BlockFacets

namespace ObjectFacets

def externalField : Field ObjectFacets :=
  .optional "associated_external_type" ExternalType.record.format (·.external)
    fun v r => { r with external := v }

/-- The facets' fields after the object's children. -/
def fieldsAfter : List (Field ObjectFacets) := [
  .optional "custom_type" CustomType.record.format (·.customType)
    fun v r => { r with customType := v },
  .list "plan_modifiers" Extension.planModifier.format (·.planModifiers)
    fun v r => { r with planModifiers := v },
  .list "validators" Extension.validator.format (·.validators)
    fun v r => { r with validators := v }]

end ObjectFacets

end ProviderCode
