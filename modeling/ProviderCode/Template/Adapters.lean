import ProviderCode.Template.Places

/-!
# Adapters

The methods of a generated value that convert it to an external type and back. A field that is
itself an object is converted by its own methods.
-/

namespace ProviderCode.Template.Adapters

/-- Converts a value to the external type. -/
def toExternal : List Piece := [
  .text "\n",
  .text "func (v ", name, .text "Value) To", .value ⟨"suffix", []⟩, .text "(ctx context.Context) (",
    .value ⟨"external_type", []⟩, .text ", diag.Diagnostics) \x7b\n",
  .text "\tvar diags diag.Diagnostics\n",
  .text "\n",
  .text "\tif v.IsNull() \x7b\n",
  .text "\t\treturn ", .value ⟨"zero", []⟩, .text ", diags\n",
  .text "\t\x7d\n",
  .text "\n",
  .text "\tif v.IsUnknown() \x7b\n",
  .text "\t\tdiags.Append(diag.NewErrorDiagnostic(\n",
  .text "\t\t\t\"", name, .text "Value Value Is Unknown\",\n",
  .text "\t\t\t`\"", name, .text "Value\" is unknown.`,\n",
  .text "\t\t))\n",
  .text "\n",
  .text "\t\treturn ", .value ⟨"zero", []⟩, .text ", diags\n",
  .text "\t\x7d\n",
  .each "field" ⟨"fields", []⟩ [
    .choose ⟨"field", ["object"]⟩ [
      .text "\n",
      .text "\t", field "camel", .text "Object, d := ", field "type_name",
        .text "Type\x7b\x7d.ValueFromObject(ctx, v.", field "pascal", .text ")\n",
      .text "\tdiags.Append(d...)\n",
      .text "\n",
      .text "\tif diags.HasError() \x7b\n",
      .text "\t\treturn ", .value ⟨"zero", []⟩, .text ", diags\n",
      .text "\t\x7d\n",
      .text "\n",
      .text "\t", field "camel", .text "Field, d := ", field "camel", .text "Object.(",
        field "type_name", .text "Value).To", field "suffix", .text "(ctx)\n",
      .text "\tdiags.Append(d...)\n",
      .text "\n",
      .text "\tif diags.HasError() \x7b\n",
      .text "\t\treturn ", .value ⟨"zero", []⟩, .text ", diags\n",
      .text "\t\x7d\n"] []],
  .text "\n",
  .text "\treturn ", .choose ⟨"pointer", []⟩ [.text "&"] [], .value ⟨"type_reference", []⟩,
    .text "\x7b\n",
  .each "field" ⟨"fields", []⟩ [
    .choose ⟨"field", ["object"]⟩ [
      .text "\t\t", field "pascal", .text ": ", field "camel", .text "Field,\n"] [
      .text "\t\t", field "pascal", .text ": v.", field "pascal", .text ".", field "to",
        .text "(),\n"]],
  .text "\t\x7d, diags\n",
  .text "\x7d\n"]

/-- Converts the external type to a value. -/
def fromExternal : List Piece := [
  .text "\n",
  .text "func (v ", name, .text "Value) From", .value ⟨"suffix", []⟩,
    .text "(ctx context.Context, apiObject ", .value ⟨"external_type", []⟩, .text ") (", name,
    .text "Value, diag.Diagnostics) \x7b\n",
  .text "\tvar diags diag.Diagnostics\n",
  .choose ⟨"pointer", []⟩ [
    .text "\n",
    .text "\tif apiObject == nil \x7b\n",
    .text "\t\treturn New", name, .text "ValueNull(), diags\n",
    .text "\t\x7d\n"] [],
  .each "field" ⟨"fields", []⟩ [
    .choose ⟨"field", ["object"]⟩ [
      .text "\n",
      .text "\t", field "camel", .text "Value, d := ", field "type_name",
        .text "Value\x7b\x7d.From", field "suffix", .text "(ctx, apiObject.", field "pascal",
        .text ")\n",
      .text "\tdiags.Append(d...)\n",
      .text "\n",
      .text "\tif diags.HasError() \x7b\n",
      .text "\t\treturn New", name, .text "ValueUnknown(), diags\n",
      .text "\t\x7d\n",
      .text "\n",
      .text "\t", field "camel", .text "Field, d := ", field "camel",
        .text "Value.ToObjectValue(ctx)\n",
      .text "\tdiags.Append(d...)\n",
      .text "\n",
      .text "\tif diags.HasError() \x7b\n",
      .text "\t\treturn New", name, .text "ValueUnknown(), diags\n",
      .text "\t\x7d\n"] []],
  .text "\n",
  .text "\treturn ", name, .text "Value\x7b\n",
  .each "field" ⟨"fields", []⟩ [
    .choose ⟨"field", ["object"]⟩ [
      .text "\t\t", field "pascal", .text ": ", field "camel", .text "Field,\n"] [
      .choose ⟨"field", ["custom_value_type"]⟩ [
        .text "\t\t", field "pascal", .text ": ", field "custom_value_type", .text "\x7b\n",
        .text "\t\t\t", field "base", .text "Value: types.", field "from", .text "(apiObject.",
          field "pascal", .text "),\n",
        .text "\t\t\x7d,\n"] [
        .text "\t\t", field "pascal", .text ": types.", field "from", .text "(apiObject.",
          field "pascal", .text "),\n"]]],
  .text "\t\tstate: attr.ValueStateKnown,\n",
  .text "\t\x7d, diags\n",
  .text "\x7d\n"]

end ProviderCode.Template.Adapters

namespace ProviderCode.Template

open Adapters in
/-- The adapters of a value; the context gives its name, the external type and the fields. -/
def adapters : Template where
  file := "to_from.go"
  pieces :=
    toExternal ++ fromExternal

end ProviderCode.Template
