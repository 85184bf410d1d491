import ProviderCode.Template.Places

/-!
# The type of an object

The declarations of the type that is generated for a nested object. Its values are made from the
values of a framework object, one field after the other.
-/

namespace ProviderCode.Template.ObjectType

/-- States that the type is a type of objects. -/
def assertion : List Piece := [
  .text "\n",
  .text "var _ basetypes.ObjectTypable = ", name, .text "Type\x7b\x7d\n"]

/-- The type itself. -/
def declaration : List Piece := [
  .text "\n",
  .text "type ", name, .text "Type struct \x7b\n",
  .text "\tbasetypes.ObjectType\n",
  .text "\x7d\n"]

/-- Types are equal if their attributes are. -/
def equal : List Piece := [
  .text "\n",
  .text "func (t ", name, .text "Type) Equal(o attr.Type) bool \x7b\n",
  .text "\tother, ok := o.(", name, .text "Type)\n",
  .text "\n",
  .text "\tif !ok \x7b\n",
  .text "\t\treturn false\n",
  .text "\t\x7d\n",
  .text "\n",
  .text "\treturn t.ObjectType.Equal(other.ObjectType)\n",
  .text "\x7d\n"]

/-- The name of the type. -/
def string : List Piece := [
  .text "\n",
  .text "func (t ", name, .text "Type) String() string \x7b\n",
  .text "\treturn \"", name, .text "Type\"\n",
  .text "\x7d\n"]

/-- Makes a value from an object, each field checked for its presence and its type. -/
def valueFromObject : List Piece := [
  .text "\n",
  .text "func (t ", name,
    .text "Type) ValueFromObject(ctx context.Context, in basetypes.ObjectValue) (basetypes.ObjectValuable, diag.Diagnostics) \x7b\n",
  .text "\tvar diags diag.Diagnostics\n",
  .text "\n",
  .text "\tattributes := in.Attributes()\n",
  .each "field" ⟨"fields", []⟩ [
    .text "\n",
    .text "\t", field "camel", .text "Attribute, ok := attributes[\"", field "name", .text "\"]\n",
    .text "\n",
    .text "\tif !ok \x7b\n",
    .text "\t\tdiags.AddError(\n",
    .text "\t\t\t\"Attribute Missing\",\n",
    .text "\t\t\t`", field "name", .text " is missing from object`)\n",
    .text "\n",
    .text "\t\treturn nil, diags\n",
    .text "\t\x7d\n",
    .text "\n",
    .text "\t", field "camel", .text "Val, ok := ", field "camel", .text "Attribute.(",
      field "value_type", .text ")\n",
    .text "\n",
    .text "\tif !ok \x7b\n",
    .text "\t\tdiags.AddError(\n",
    .text "\t\t\t\"Attribute Wrong Type\",\n",
    .text "\t\t\tfmt.Sprintf(`", field "name", .text " expected to be ", field "value_type",
      .text ", was: %T`, ", field "camel", .text "Attribute))\n",
    .text "\t\x7d\n"],
  .text "\n",
  .text "\tif diags.HasError() \x7b\n",
  .text "\t\treturn nil, diags\n",
  .text "\t\x7d\n",
  .text "\n",
  .text "\treturn ", name, .text "Value\x7b\n",
  .each "field" ⟨"fields", []⟩ [
    .text "\t\t", field "pascal", .text ": ", field "camel", .text "Val,\n"],
  .text "\t\tstate: attr.ValueStateKnown,\n",
  .text "\t\x7d, diags\n",
  .text "\x7d\n"]

/-- Makes a value from a value of the wire format. -/
def valueFromTerraform : List Piece := [
  .text "\n",
  .text "func (t ", name,
    .text "Type) ValueFromTerraform(ctx context.Context, in tftypes.Value) (attr.Value, error) \x7b\n",
  .text "\tif in.Type() == nil \x7b\n",
  .text "\t\treturn New", name, .text "ValueNull(), nil\n",
  .text "\t\x7d\n",
  .text "\n",
  .text "\tif !in.Type().Equal(t.TerraformType(ctx)) \x7b\n",
  .text "\t\treturn nil, fmt.Errorf(\"expected %s, got %s\", t.TerraformType(ctx), in.Type())\n",
  .text "\t\x7d\n",
  .text "\n",
  .text "\tif !in.IsKnown() \x7b\n",
  .text "\t\treturn New", name, .text "ValueUnknown(), nil\n",
  .text "\t\x7d\n",
  .text "\n",
  .text "\tif in.IsNull() \x7b\n",
  .text "\t\treturn New", name, .text "ValueNull(), nil\n",
  .text "\t\x7d\n",
  .text "\n",
  .text "\tattributes := map[string]attr.Value\x7b\x7d\n",
  .text "\n",
  .text "\tval := map[string]tftypes.Value\x7b\x7d\n",
  .text "\n",
  .text "\terr := in.As(&val)\n",
  .text "\n",
  .text "\tif err != nil \x7b\n",
  .text "\t\treturn nil, err\n",
  .text "\t\x7d\n",
  .text "\n",
  .text "\tfor k, v := range val \x7b\n",
  .text "\t\ta, err := t.AttrTypes[k].ValueFromTerraform(ctx, v)\n",
  .text "\n",
  .text "\t\tif err != nil \x7b\n",
  .text "\t\t\treturn nil, err\n",
  .text "\t\t\x7d\n",
  .text "\n",
  .text "\t\tattributes[k] = a\n",
  .text "\t\x7d\n",
  .text "\n",
  .text "\tobjectValue, diags := basetypes.NewObjectValue(t.AttrTypes, attributes)\n",
  .text "\n",
  .text "\tif diags.HasError() \x7b\n",
  .text "\t\treturn nil, fmt.Errorf(\"unexpected error converting ", name,
    .text "Value: %v\", diags)\n",
  .text "\t\x7d\n",
  .text "\n",
  .text "\tvalue, diags := t.ValueFromObject(ctx, objectValue)\n",
  .text "\n",
  .text "\tif diags.HasError() \x7b\n",
  .text "\t\treturn nil, fmt.Errorf(\"unexpected error converting ", name,
    .text "Value: %v\", diags)\n",
  .text "\t\x7d\n",
  .text "\n",
  .text "\treturn value, nil\n",
  .text "\x7d\n"]

/-- The values of the type. -/
def valueType : List Piece := [
  .text "\n",
  .text "func (t ", name, .text "Type) ValueType(ctx context.Context) attr.Value \x7b\n",
  .text "\treturn ", name, .text "Value\x7b\x7d\n",
  .text "\x7d\n"]

end ProviderCode.Template.ObjectType

namespace ProviderCode.Template

open ObjectType in
/-- The type of an object; the context gives its name and fields. -/
def objectType : Template where
  file := "object_type.go"
  pieces :=
    assertion ++ declaration ++ equal ++ string ++ valueFromObject ++ valueFromTerraform ++
    valueType

end ProviderCode.Template
