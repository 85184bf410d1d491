import ProviderCode.Template.Places

/-!
# The value of an object

The declarations of the values of a generated type: a struct with the fields and a state, and the
conversions to the framework and to the wire format.
-/

namespace ProviderCode.Template.ObjectValue

/-- States that the values are values of objects. -/
def assertion : List Piece := [
  .text "\n",
  .text "var _ basetypes.ObjectValuable = ", name, .text "Value\x7b\x7d\n"]

/-- The struct of the values. -/
def declaration : List Piece := [
  .text "\n",
  .text "type ", name, .text "Value struct \x7b\n",
  .each "field" ⟨"fields", []⟩ [
    .text "\t", field "pascal", .text " ", field "value_type", .text " `tfsdk:\"", field "name",
      .text "\"`\n"],
  .text "\tstate attr.ValueState\n",
  .text "\x7d\n"]

/-- The null value. -/
def nullValue : List Piece := [
  .text "\n",
  .text "func New", name, .text "ValueNull() ", name, .text "Value \x7b\n",
  .text "\treturn ", name, .text "Value\x7b\n",
  .text "\t\tstate: attr.ValueStateNull,\n",
  .text "\t\x7d\n",
  .text "\x7d\n"]

/-- The unknown value. -/
def unknownValue : List Piece := [
  .text "\n",
  .text "func New", name, .text "ValueUnknown() ", name, .text "Value \x7b\n",
  .text "\treturn ", name, .text "Value\x7b\n",
  .text "\t\tstate: attr.ValueStateUnknown,\n",
  .text "\t\x7d\n",
  .text "\x7d\n"]

/-- The value in the wire format. -/
def toTerraformValue : List Piece := [
  .text "\n",
  .text "func (v ", name,
    .text "Value) ToTerraformValue(ctx context.Context) (tftypes.Value, error) \x7b\n",
  .text "\tattrTypes := make(map[string]tftypes.Type, ", .count ⟨"fields", []⟩, .text ")\n",
  .choose ⟨"fields", []⟩ [
    .text "\n",
    .text "\tvar val tftypes.Value\n",
    .text "\tvar err error\n"] [],
  .each "field" ⟨"fields", []⟩ [
    .text "\n",
    .text "\tattrTypes[\"", field "name", .text "\"] = ", field "attr_type",
      .text ".TerraformType(ctx)\n"],
  .text "\n",
  .text "\tobjectType := tftypes.Object\x7bAttributeTypes: attrTypes\x7d\n",
  .text "\n",
  .text "\tswitch v.state \x7b\n",
  .text "\tcase attr.ValueStateKnown:\n",
  .text "\t\tvals := make(map[string]tftypes.Value, ", .count ⟨"fields", []⟩, .text ")\n",
  .each "field" ⟨"fields", []⟩ [
    .text "\n",
    .text "\t\tval, err = v.", field "pascal", .text ".ToTerraformValue(ctx)\n",
    .text "\n",
    .text "\t\tif err != nil \x7b\n",
    .text "\t\t\treturn tftypes.NewValue(objectType, tftypes.UnknownValue), err\n",
    .text "\t\t\x7d\n",
    .text "\n",
    .text "\t\tvals[\"", field "name", .text "\"] = val\n"],
  .text "\n",
  .text "\t\tif err := tftypes.ValidateValue(objectType, vals); err != nil \x7b\n",
  .text "\t\t\treturn tftypes.NewValue(objectType, tftypes.UnknownValue), err\n",
  .text "\t\t\x7d\n",
  .text "\n",
  .text "\t\treturn tftypes.NewValue(objectType, vals), nil\n",
  .text "\tcase attr.ValueStateNull:\n",
  .text "\t\treturn tftypes.NewValue(objectType, nil), nil\n",
  .text "\tcase attr.ValueStateUnknown:\n",
  .text "\t\treturn tftypes.NewValue(objectType, tftypes.UnknownValue), nil\n",
  .text "\tdefault:\n",
  .text "\t\tpanic(fmt.Sprintf(\"unhandled Object state in ToTerraformValue: %s\", v.state))\n",
  .text "\t\x7d\n",
  .text "\x7d\n"]

/-- Whether the value is null. -/
def isNull : List Piece := [
  .text "\n",
  .text "func (v ", name, .text "Value) IsNull() bool \x7b\n",
  .text "\treturn v.state == attr.ValueStateNull\n",
  .text "\x7d\n"]

/-- Whether the value is unknown. -/
def isUnknown : List Piece := [
  .text "\n",
  .text "func (v ", name, .text "Value) IsUnknown() bool \x7b\n",
  .text "\treturn v.state == attr.ValueStateUnknown\n",
  .text "\x7d\n"]

/-- The name of the values. -/
def string : List Piece := [
  .text "\n",
  .text "func (v ", name, .text "Value) String() string \x7b\n",
  .text "\treturn \"", name, .text "Value\"\n",
  .text "\x7d\n"]

/-- The value as an object of the framework; fields that are collections need the type of their
elements. -/
def toObjectValue : List Piece := [
  .text "\n",
  .text "func (v ", name,
    .text "Value) ToObjectValue(ctx context.Context) (basetypes.ObjectValue, diag.Diagnostics) \x7b\n",
  .text "\tvar diags diag.Diagnostics\n",
  .text "\n",
  .text "\tattributeTypes := v.AttributeTypes(ctx)\n",
  .each "field" ⟨"fields", []⟩ [
    .choose ⟨"field", ["collection"]⟩ [
      .text "\n",
      .text "\tvar ", field "camel", .text "Val basetypes.", ofCollection "kind", .text "Value\n",
      .text "\tswitch \x7b\n",
      .text "\tcase v.", field "pascal", .text ".IsUnknown():\n",
      .text "\t\t", field "camel", .text "Val = types.", ofCollection "kind", .text "Unknown(",
        ofCollection "element_type", .text ")\n",
      .text "\tcase v.", field "pascal", .text ".IsNull():\n",
      .text "\t\t", field "camel", .text "Val = types.", ofCollection "kind", .text "Null(",
        ofCollection "element_type", .text ")\n",
      .text "\tdefault:\n",
      .text "\t\tvar d diag.Diagnostics\n",
      .text "\t\t", field "camel", .text "Val, d = types.", ofCollection "kind", .text "Value(",
        ofCollection "element_type", .text ", v.", field "pascal", .text ".Elements())\n",
      .text "\t\tdiags.Append(d...)\n",
      .text "\t\x7d\n",
      .text "\n",
      .text "\tif diags.HasError() \x7b\n",
      .text "\t\treturn types.ObjectUnknown(attributeTypes), diags\n",
      .text "\t\x7d\n"] []],
  .text "\n",
  .text "\tif v.IsNull() \x7b\n",
  .text "\t\treturn types.ObjectNull(attributeTypes), diags\n",
  .text "\t\x7d\n",
  .text "\n",
  .text "\tif v.IsUnknown() \x7b\n",
  .text "\t\treturn types.ObjectUnknown(attributeTypes), diags\n",
  .text "\t\x7d\n",
  .text "\n",
  .text "\tobjVal, d := types.ObjectValue(\n",
  .text "\t\tattributeTypes,\n",
  .text "\t\tmap[string]attr.Value\x7b\n",
  .each "field" ⟨"fields", []⟩ [
    .choose ⟨"field", ["collection"]⟩ [
      .text "\t\t\t\"", field "name", .text "\": ", field "camel", .text "Val,\n"] [
      .text "\t\t\t\"", field "name", .text "\": v.", field "pascal", .text ",\n"]],
  .text "\t\t\x7d)\n",
  .text "\tdiags.Append(d...)\n",
  .text "\n",
  .text "\treturn objVal, diags\n",
  .text "\x7d\n"]

/-- Values are equal if their states and fields are. -/
def equal : List Piece := [
  .text "\n",
  .text "func (v ", name, .text "Value) Equal(o attr.Value) bool \x7b\n",
  .text "\tother, ok := o.(", name, .text "Value)\n",
  .text "\n",
  .text "\tif !ok \x7b\n",
  .text "\t\treturn false\n",
  .text "\t\x7d\n",
  .text "\n",
  .text "\tif v.state != other.state \x7b\n",
  .text "\t\treturn false\n",
  .text "\t\x7d\n",
  .text "\n",
  .text "\tif v.state != attr.ValueStateKnown \x7b\n",
  .text "\t\treturn true\n",
  .text "\t\x7d\n",
  .each "field" ⟨"fields", []⟩ [
    .text "\n",
    .text "\tif !v.", field "pascal", .text ".Equal(other.", field "pascal", .text ") \x7b\n",
    .text "\t\treturn false\n",
    .text "\t\x7d\n"],
  .text "\n",
  .text "\treturn true\n",
  .text "\x7d\n"]

/-- The type of the value. -/
def type : List Piece := [
  .text "\n",
  .text "func (v ", name, .text "Value) Type(ctx context.Context) attr.Type \x7b\n",
  .text "\treturn ", name, .text "Type\x7b\n",
  .text "\t\tbasetypes.ObjectType\x7b\n",
  .text "\t\t\tAttrTypes: v.AttributeTypes(ctx),\n",
  .text "\t\t\x7d,\n",
  .text "\t\x7d\n",
  .text "\x7d\n"]

/-- The types of the fields. -/
def attributeTypes : List Piece := [
  .text "\n",
  .text "func (v ", name,
    .text "Value) AttributeTypes(ctx context.Context) map[string]attr.Type \x7b\n",
  .text "\treturn map[string]attr.Type\x7b\n",
  .each "field" ⟨"fields", []⟩ [
    .text "\t\t\"", field "name", .text "\": ", field "attr_type", .text ",\n"],
  .text "\t\x7d\n",
  .text "\x7d\n"]

end ProviderCode.Template.ObjectValue

namespace ProviderCode.Template

open ObjectValue in
/-- The value of an object; the context gives its name and fields. -/
def objectValue : Template where
  file := "object_value.go"
  pieces :=
    assertion ++ declaration ++ nullValue ++ unknownValue ++ toTerraformValue ++ isNull ++
    isUnknown ++ string ++ toObjectValue ++ equal ++ type ++ attributeTypes

end ProviderCode.Template
