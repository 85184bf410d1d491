import ProviderCode.Proofs.RenderedText

/-!
# Generated types, printed directly

What the templates of a generated type and of its values render to, as text with the name put in
and, in each section that lists the fields, one group of lines for each field.  A field and the name
can be any texts: they are put in as they are.

Main statement: for every name and all fields both templates render to this text.
-/

namespace ProviderCode

open Json (Value)

/-! ### Fields -/

/-- The collection that a field is, as templates know it. -/
structure CollectionTexts where
  kind : String
  elementType : String

/-- A field as the templates of a type and its values know it. -/
structure FieldTexts where
  name : String
  pascal : String
  camel : String
  valueType : String
  attributeType : String
  collection : Option CollectionTexts

def CollectionTexts.context (c : CollectionTexts) : Value :=
  .object [("kind", .string c.kind), ("element_type", .string c.elementType)]

/-- The field in a context; one that is no collection has no member for it. -/
def FieldTexts.context (field : FieldTexts) : Value :=
  .object ([
    ("name", .string field.name),
    ("pascal", .string field.pascal),
    ("camel", .string field.camel),
    ("value_type", .string field.valueType),
    ("attr_type", .string field.attributeType)] ++
    (field.collection.map fun c => ("collection", c.context)).toList)

/-- The context of a type and of its values. -/
def typeContext (name : String) (fields : List FieldTexts) : Value :=
  .object [("name", .string name), ("fields", .array (fields.map FieldTexts.context))]

/-- A group of lines for each of the fields. -/
def eachField {α : Type} (group : α → String) (fields : List α) : String :=
  String.join (fields.map fun field => group field)

/-- Where the text of an append is that of its parts, the text of groups in a row is that of each. -/
theorem text_flatMap_eq {α β : Type} {text : List β → String} (hnil : text [] = "")
    (happend : ∀ a b, text (a ++ b) = text a ++ text b) (group : α → List β) (as : List α) :
    text (as.flatMap group) = eachField (fun a => text (group a)) as := by
  induction as with
  | nil => exact hnil
  | cons a as ih =>
    rw [List.flatMap_cons, happend, ih, eachField, eachField, List.map_cons, String.join_cons]

/-! ### The type -/

namespace TypeText

/-- States that the type is a type of objects. -/
def assertion (name : String) : String := String.join [
  "\n",
  s!"var _ basetypes.ObjectTypable = {name}Type\x7b\x7d\n"]

/-- The type itself. -/
def declaration (name : String) : String := String.join [
  "\n",
  s!"type {name}Type struct \x7b\n",
  "\tbasetypes.ObjectType\n",
  "\x7d\n"]

/-- Types are equal if their attributes are. -/
def equal (name : String) : String := String.join [
  "\n",
  s!"func (t {name}Type) Equal(o attr.Type) bool \x7b\n",
  s!"\tother, ok := o.({name}Type)\n",
  "\n",
  "\tif !ok \x7b\n",
  "\t\treturn false\n",
  "\t\x7d\n",
  "\n",
  "\treturn t.ObjectType.Equal(other.ObjectType)\n",
  "\x7d\n"]

/-- The name of the type. -/
def string (name : String) : String := String.join [
  "\n",
  s!"func (t {name}Type) String() string \x7b\n",
  s!"\treturn \"{name}Type\"\n",
  "\x7d\n"]

/-- The look-up of a field in an object, and the assertion of its type. -/
def lookup (field : FieldTexts) : String := String.join [
  "\n",
  s!"\t{field.camel}Attribute, ok := attributes[\"{field.name}\"]\n",
  "\n",
  "\tif !ok \x7b\n",
  "\t\tdiags.AddError(\n",
  "\t\t\t\"Attribute Missing\",\n",
  s!"\t\t\t`{field.name} is missing from object`)\n",
  "\n",
  "\t\treturn nil, diags\n",
  "\t\x7d\n",
  "\n",
  s!"\t{field.camel}Val, ok := {field.camel}Attribute.({field.valueType})\n",
  "\n",
  "\tif !ok \x7b\n",
  "\t\tdiags.AddError(\n",
  "\t\t\t\"Attribute Wrong Type\",\n",
  s!"\t\t\tfmt.Sprintf(`{field.name} expected to be {field.valueType}, was: %T`, " ++
    s!"{field.camel}Attribute))\n",
  "\t\x7d\n"]

/-- A field in the literal of a value. -/
def member (field : FieldTexts) : String := s!"\t\t{field.pascal}: {field.camel}Val,\n"

/-- Makes a value from an object. -/
def valueFromObject (name : String) (fields : List FieldTexts) : String := String.join [
  "\n",
  s!"func (t {name}Type) ValueFromObject(ctx context.Context, in basetypes.ObjectValue) (basetypes.ObjectValuable, diag.Diagnostics) \x7b\n",
  "\tvar diags diag.Diagnostics\n",
  "\n",
  "\tattributes := in.Attributes()\n",
  eachField lookup fields,
  "\n",
  "\tif diags.HasError() \x7b\n",
  "\t\treturn nil, diags\n",
  "\t\x7d\n",
  "\n",
  s!"\treturn {name}Value\x7b\n",
  eachField member fields,
  "\t\tstate: attr.ValueStateKnown,\n",
  "\t\x7d, diags\n",
  "\x7d\n"]

/-- Makes a value from a value of the wire format. -/
def valueFromTerraform (name : String) : String := String.join [
  "\n",
  s!"func (t {name}Type) ValueFromTerraform(ctx context.Context, in tftypes.Value) (attr.Value, error) \x7b\n",
  "\tif in.Type() == nil \x7b\n",
  s!"\t\treturn New{name}ValueNull(), nil\n",
  "\t\x7d\n",
  "\n",
  "\tif !in.Type().Equal(t.TerraformType(ctx)) \x7b\n",
  "\t\treturn nil, fmt.Errorf(\"expected %s, got %s\", t.TerraformType(ctx), in.Type())\n",
  "\t\x7d\n",
  "\n",
  "\tif !in.IsKnown() \x7b\n",
  s!"\t\treturn New{name}ValueUnknown(), nil\n",
  "\t\x7d\n",
  "\n",
  "\tif in.IsNull() \x7b\n",
  s!"\t\treturn New{name}ValueNull(), nil\n",
  "\t\x7d\n",
  "\n",
  "\tattributes := map[string]attr.Value\x7b\x7d\n",
  "\n",
  "\tval := map[string]tftypes.Value\x7b\x7d\n",
  "\n",
  "\terr := in.As(&val)\n",
  "\n",
  "\tif err != nil \x7b\n",
  "\t\treturn nil, err\n",
  "\t\x7d\n",
  "\n",
  "\tfor k, v := range val \x7b\n",
  "\t\ta, err := t.AttrTypes[k].ValueFromTerraform(ctx, v)\n",
  "\n",
  "\t\tif err != nil \x7b\n",
  "\t\t\treturn nil, err\n",
  "\t\t\x7d\n",
  "\n",
  "\t\tattributes[k] = a\n",
  "\t\x7d\n",
  "\n",
  "\tobjectValue, diags := basetypes.NewObjectValue(t.AttrTypes, attributes)\n",
  "\n",
  "\tif diags.HasError() \x7b\n",
  s!"\t\treturn nil, fmt.Errorf(\"unexpected error converting {name}Value: %v\", diags)\n",
  "\t\x7d\n",
  "\n",
  "\tvalue, diags := t.ValueFromObject(ctx, objectValue)\n",
  "\n",
  "\tif diags.HasError() \x7b\n",
  s!"\t\treturn nil, fmt.Errorf(\"unexpected error converting {name}Value: %v\", diags)\n",
  "\t\x7d\n",
  "\n",
  "\treturn value, nil\n",
  "\x7d\n"]

/-- The values of the type. -/
def valueType (name : String) : String := String.join [
  "\n",
  s!"func (t {name}Type) ValueType(ctx context.Context) attr.Value \x7b\n",
  s!"\treturn {name}Value\x7b\x7d\n",
  "\x7d\n"]

/-- The type of an object with a name and fields. -/
def print (name : String) (fields : List FieldTexts) : String :=
  assertion name ++ declaration name ++ equal name ++ string name ++ valueFromObject name fields ++
    valueFromTerraform name ++ valueType name

end TypeText

/-! ### The values -/

namespace ValueText

/-- States that the values are values of objects. -/
def assertion (name : String) : String := String.join [
  "\n",
  s!"var _ basetypes.ObjectValuable = {name}Value\x7b\x7d\n"]

/-- A field of the struct. -/
def structField (field : FieldTexts) : String :=
  s!"\t{field.pascal} {field.valueType} `tfsdk:\"{field.name}\"`\n"

/-- The struct of the values. -/
def declaration (name : String) (fields : List FieldTexts) : String := String.join [
  "\n",
  s!"type {name}Value struct \x7b\n",
  eachField structField fields,
  "\tstate attr.ValueState\n",
  "\x7d\n"]

/-- The null value. -/
def nullValue (name : String) : String := String.join [
  "\n",
  s!"func New{name}ValueNull() {name}Value \x7b\n",
  s!"\treturn {name}Value\x7b\n",
  "\t\tstate: attr.ValueStateNull,\n",
  "\t\x7d\n",
  "\x7d\n"]

/-- The unknown value. -/
def unknownValue (name : String) : String := String.join [
  "\n",
  s!"func New{name}ValueUnknown() {name}Value \x7b\n",
  s!"\treturn {name}Value\x7b\n",
  "\t\tstate: attr.ValueStateUnknown,\n",
  "\t\x7d\n",
  "\x7d\n"]

/-- The type of a field in the wire format. -/
def wireType (field : FieldTexts) : String := String.join [
  "\n",
  s!"\tattrTypes[\"{field.name}\"] = {field.attributeType}.TerraformType(ctx)\n"]

/-- The value of a field in the wire format. -/
def wireValue (field : FieldTexts) : String := String.join [
  "\n",
  s!"\t\tval, err = v.{field.pascal}.ToTerraformValue(ctx)\n",
  "\n",
  "\t\tif err != nil \x7b\n",
  "\t\t\treturn tftypes.NewValue(objectType, tftypes.UnknownValue), err\n",
  "\t\t\x7d\n",
  "\n",
  s!"\t\tvals[\"{field.name}\"] = val\n"]

/-- The variables that the values of fields need. -/
def wireVariables (fields : List FieldTexts) : String :=
  if fields.isEmpty then ""
  else String.join [
    "\n",
    "\tvar val tftypes.Value\n",
    "\tvar err error\n"]

/-- The value in the wire format. -/
def toTerraformValue (name : String) (fields : List FieldTexts) : String := String.join [
  "\n",
  s!"func (v {name}Value) ToTerraformValue(ctx context.Context) (tftypes.Value, error) \x7b\n",
  s!"\tattrTypes := make(map[string]tftypes.Type, {fields.length})\n",
  wireVariables fields,
  eachField wireType fields,
  "\n",
  "\tobjectType := tftypes.Object\x7bAttributeTypes: attrTypes\x7d\n",
  "\n",
  "\tswitch v.state \x7b\n",
  "\tcase attr.ValueStateKnown:\n",
  s!"\t\tvals := make(map[string]tftypes.Value, {fields.length})\n",
  eachField wireValue fields,
  "\n",
  "\t\tif err := tftypes.ValidateValue(objectType, vals); err != nil \x7b\n",
  "\t\t\treturn tftypes.NewValue(objectType, tftypes.UnknownValue), err\n",
  "\t\t\x7d\n",
  "\n",
  "\t\treturn tftypes.NewValue(objectType, vals), nil\n",
  "\tcase attr.ValueStateNull:\n",
  "\t\treturn tftypes.NewValue(objectType, nil), nil\n",
  "\tcase attr.ValueStateUnknown:\n",
  "\t\treturn tftypes.NewValue(objectType, tftypes.UnknownValue), nil\n",
  "\tdefault:\n",
  "\t\tpanic(fmt.Sprintf(\"unhandled Object state in ToTerraformValue: %s\", v.state))\n",
  "\t\x7d\n",
  "\x7d\n"]

/-- Whether the value is null. -/
def isNull (name : String) : String := String.join [
  "\n",
  s!"func (v {name}Value) IsNull() bool \x7b\n",
  "\treturn v.state == attr.ValueStateNull\n",
  "\x7d\n"]

/-- Whether the value is unknown. -/
def isUnknown (name : String) : String := String.join [
  "\n",
  s!"func (v {name}Value) IsUnknown() bool \x7b\n",
  "\treturn v.state == attr.ValueStateUnknown\n",
  "\x7d\n"]

/-- The name of the values. -/
def string (name : String) : String := String.join [
  "\n",
  s!"func (v {name}Value) String() string \x7b\n",
  s!"\treturn \"{name}Value\"\n",
  "\x7d\n"]

/-- The value of a field that is a collection, with the type of its elements. -/
def collectionValue (field : FieldTexts) : String :=
  match field.collection with
  | none => ""
  | some c => String.join [
    "\n",
    s!"\tvar {field.camel}Val basetypes.{c.kind}Value\n",
    "\tswitch \x7b\n",
    s!"\tcase v.{field.pascal}.IsUnknown():\n",
    s!"\t\t{field.camel}Val = types.{c.kind}Unknown({c.elementType})\n",
    s!"\tcase v.{field.pascal}.IsNull():\n",
    s!"\t\t{field.camel}Val = types.{c.kind}Null({c.elementType})\n",
    "\tdefault:\n",
    "\t\tvar d diag.Diagnostics\n",
    s!"\t\t{field.camel}Val, d = types.{c.kind}Value({c.elementType}, v.{field.pascal}.Elements())\n",
    "\t\tdiags.Append(d...)\n",
    "\t\x7d\n",
    "\n",
    "\tif diags.HasError() \x7b\n",
    "\t\treturn types.ObjectUnknown(attributeTypes), diags\n",
    "\t\x7d\n"]

/-- A field in the map of an object's values. -/
def mapEntry (field : FieldTexts) : String :=
  match field.collection with
  | some _ => s!"\t\t\t\"{field.name}\": {field.camel}Val,\n"
  | none => s!"\t\t\t\"{field.name}\": v.{field.pascal},\n"

/-- The value as an object of the framework. -/
def toObjectValue (name : String) (fields : List FieldTexts) : String := String.join [
  "\n",
  s!"func (v {name}Value) ToObjectValue(ctx context.Context) (basetypes.ObjectValue, diag.Diagnostics) \x7b\n",
  "\tvar diags diag.Diagnostics\n",
  "\n",
  "\tattributeTypes := v.AttributeTypes(ctx)\n",
  eachField collectionValue fields,
  "\n",
  "\tif v.IsNull() \x7b\n",
  "\t\treturn types.ObjectNull(attributeTypes), diags\n",
  "\t\x7d\n",
  "\n",
  "\tif v.IsUnknown() \x7b\n",
  "\t\treturn types.ObjectUnknown(attributeTypes), diags\n",
  "\t\x7d\n",
  "\n",
  "\tobjVal, d := types.ObjectValue(\n",
  "\t\tattributeTypes,\n",
  "\t\tmap[string]attr.Value\x7b\n",
  eachField mapEntry fields,
  "\t\t\x7d)\n",
  "\tdiags.Append(d...)\n",
  "\n",
  "\treturn objVal, diags\n",
  "\x7d\n"]

/-- The comparison of a field. -/
def comparison (field : FieldTexts) : String := String.join [
  "\n",
  s!"\tif !v.{field.pascal}.Equal(other.{field.pascal}) \x7b\n",
  "\t\treturn false\n",
  "\t\x7d\n"]

/-- Values are equal if their states and fields are. -/
def equal (name : String) (fields : List FieldTexts) : String := String.join [
  "\n",
  s!"func (v {name}Value) Equal(o attr.Value) bool \x7b\n",
  s!"\tother, ok := o.({name}Value)\n",
  "\n",
  "\tif !ok \x7b\n",
  "\t\treturn false\n",
  "\t\x7d\n",
  "\n",
  "\tif v.state != other.state \x7b\n",
  "\t\treturn false\n",
  "\t\x7d\n",
  "\n",
  "\tif v.state != attr.ValueStateKnown \x7b\n",
  "\t\treturn true\n",
  "\t\x7d\n",
  eachField comparison fields,
  "\n",
  "\treturn true\n",
  "\x7d\n"]

/-- The type of the value. -/
def type (name : String) : String := String.join [
  "\n",
  s!"func (v {name}Value) Type(ctx context.Context) attr.Type \x7b\n",
  s!"\treturn {name}Type\x7b\n",
  "\t\tbasetypes.ObjectType\x7b\n",
  "\t\t\tAttrTypes: v.AttributeTypes(ctx),\n",
  "\t\t\x7d,\n",
  "\t\x7d\n",
  "\x7d\n"]

/-- The type of a field. -/
def attributeType (field : FieldTexts) : String :=
  s!"\t\t\"{field.name}\": {field.attributeType},\n"

/-- The types of the fields. -/
def attributeTypes (name : String) (fields : List FieldTexts) : String := String.join [
  "\n",
  s!"func (v {name}Value) AttributeTypes(ctx context.Context) map[string]attr.Type \x7b\n",
  "\treturn map[string]attr.Type\x7b\n",
  eachField attributeType fields,
  "\t\x7d\n",
  "\x7d\n"]

/-- The values of an object with a name and fields. -/
def print (name : String) (fields : List FieldTexts) : String :=
  assertion name ++ declaration name fields ++ nullValue name ++ unknownValue name ++
    toTerraformValue name fields ++ isNull name ++ isUnknown name ++ string name ++
    toObjectValue name fields ++ equal name fields ++ type name ++ attributeTypes name fields

end ValueText

/-! ### Rendering -/

namespace Template

/-- The scope in which the templates of a type and of its values are rendered. -/
def typeScope (name : String) (fields : List FieldTexts) : Scope :=
  { context := typeContext name fields }

section Places

variable (name : String) (fields : List FieldTexts)

theorem resolve?_name :
    (typeScope name fields).resolve? ⟨"name", []⟩ = some (some (.string name)) := rfl

theorem resolve?_fields : (typeScope name fields).resolve? ⟨"fields", []⟩ =
    some (some (.array (fields.map FieldTexts.context))) := rfl

/-- What the places of a field lead to. -/
theorem resolve?_field (scope : Scope) (field : FieldTexts) :
    (scope.bind "field" field.context).resolve? ⟨"field", ["name"]⟩ =
      some (some (.string field.name)) ∧
    (scope.bind "field" field.context).resolve? ⟨"field", ["pascal"]⟩ =
      some (some (.string field.pascal)) ∧
    (scope.bind "field" field.context).resolve? ⟨"field", ["camel"]⟩ =
      some (some (.string field.camel)) ∧
    (scope.bind "field" field.context).resolve? ⟨"field", ["value_type"]⟩ =
      some (some (.string field.valueType)) ∧
    (scope.bind "field" field.context).resolve? ⟨"field", ["attr_type"]⟩ =
      some (some (.string field.attributeType)) ∧
    (scope.bind "field" field.context).resolve? ⟨"field", ["collection"]⟩ =
      some (field.collection.map CollectionTexts.context) := by
  obtain ⟨name, pascal, camel, valueType, attributeType, _ | collection⟩ := field <;>
    exact ⟨rfl, rfl, rfl, rfl, rfl, rfl⟩

/-- What the places of a collection lead to, in a field that is one. -/
theorem resolve?_collection (scope : Scope) {field : FieldTexts} {c : CollectionTexts}
    (h : field.collection = some c) :
    (scope.bind "field" field.context).resolve? ⟨"field", ["collection", "kind"]⟩ =
      some (some (.string c.kind)) ∧
    (scope.bind "field" field.context).resolve? ⟨"field", ["collection", "element_type"]⟩ =
      some (some (.string c.elementType)) := by
  obtain ⟨name, pascal, camel, valueType, attributeType, collection⟩ := field
  cases h
  exact ⟨rfl, rfl⟩

theorem renderText?_eachField (body pieces : List Piece) :
    renderText? (typeScope name fields) (.each "field" ⟨"fields", []⟩ body :: pieces) =
      (fields.mapM fun field =>
        renderText? ((typeScope name fields).bind "field" field.context) body).bind fun texts =>
          (renderText? (typeScope name fields) pieces).map (String.join texts ++ ·) :=
  renderText?_each (resolve?_fields name fields) "field" body pieces

theorem renderText?_countFields (pieces : List Piece) :
    renderText? (typeScope name fields) (.count ⟨"fields", []⟩ :: pieces) =
      (renderText? (typeScope name fields) pieces).map (toString fields.length ++ ·) := by
  rw [renderText?_count (resolve?_fields name fields), List.length_map]

/-- A part that is there if there are fields. -/
theorem renderText?_ifFields (yes pieces : List Piece) :
    renderText? (typeScope name fields) (.choose ⟨"fields", []⟩ yes [] :: pieces) =
      (if fields.isEmpty then some "" else renderText? (typeScope name fields) yes).bind fun text =>
        (renderText? (typeScope name fields) pieces).map (text ++ ·) := by
  rw [renderText?_choose, resolve?_fields]
  cases fields <;> rfl

/-- A part that differs for fields that are collections. -/
theorem renderText?_ifCollection (scope : Scope) (field : FieldTexts) (yes no : List Piece) :
    renderText? (scope.bind "field" field.context) [.choose ⟨"field", ["collection"]⟩ yes no] =
      if field.collection.isSome then renderText? (scope.bind "field" field.context) yes
      else renderText? (scope.bind "field" field.context) no := by
  obtain ⟨-, -, -, -, -, hcollection⟩ := resolve?_field scope field
  rw [renderText?_only_choose hcollection]
  cases field.collection <;> rfl

end Places

section Sections

variable (name : String) (fields : List FieldTexts)

/-- The sections of a type. -/
theorem text_objectType :
    let text? := renderText? (typeScope name fields)
    text? ObjectType.assertion = some (TypeText.assertion name) ∧
    text? ObjectType.declaration = some (TypeText.declaration name) ∧
    text? ObjectType.equal = some (TypeText.equal name) ∧
    text? ObjectType.string = some (TypeText.string name) ∧
    text? ObjectType.valueFromObject = some (TypeText.valueFromObject name fields) ∧
    text? ObjectType.valueFromTerraform = some (TypeText.valueFromTerraform name) ∧
    text? ObjectType.valueType = some (TypeText.valueType name) := by
  refine ⟨?_, ?_, ?_, ?_, ?_, ?_, ?_⟩ <;>
    simp only [ObjectType.assertion, ObjectType.declaration, ObjectType.equal, ObjectType.string,
      ObjectType.valueFromObject, ObjectType.valueFromTerraform, ObjectType.valueType,
      Template.name, Template.field, renderText?_text, renderText?_value, renderText?_eachField,
      renderText?_nil, resolve?_name, resolve?_field, display_string, mapM_some, Option.map_some,
      Option.bind_some, TypeText.assertion, TypeText.declaration, TypeText.equal, TypeText.string,
      TypeText.lookup, TypeText.member, TypeText.valueFromObject, TypeText.valueFromTerraform,
      TypeText.valueType, eachField, toString_string, String.join_cons, String.join_nil,
      String.append_assoc, String.append_empty]

/-- The sections of the values of a type, but for the one that looks at collections. -/
theorem text_objectValue :
    let text? := renderText? (typeScope name fields)
    text? ObjectValue.assertion = some (ValueText.assertion name) ∧
    text? ObjectValue.declaration = some (ValueText.declaration name fields) ∧
    text? ObjectValue.nullValue = some (ValueText.nullValue name) ∧
    text? ObjectValue.unknownValue = some (ValueText.unknownValue name) ∧
    text? ObjectValue.toTerraformValue = some (ValueText.toTerraformValue name fields) ∧
    text? ObjectValue.isNull = some (ValueText.isNull name) ∧
    text? ObjectValue.isUnknown = some (ValueText.isUnknown name) ∧
    text? ObjectValue.string = some (ValueText.string name) ∧
    text? ObjectValue.equal = some (ValueText.equal name fields) ∧
    text? ObjectValue.type = some (ValueText.type name) ∧
    text? ObjectValue.attributeTypes = some (ValueText.attributeTypes name fields) := by
  refine ⟨?_, ?_, ?_, ?_, ?_, ?_, ?_, ?_, ?_, ?_, ?_⟩ <;>
    simp only [ObjectValue.assertion, ObjectValue.declaration, ObjectValue.nullValue,
      ObjectValue.unknownValue, ObjectValue.toTerraformValue, ObjectValue.isNull,
      ObjectValue.isUnknown, ObjectValue.string, ObjectValue.equal, ObjectValue.type,
      ObjectValue.attributeTypes, Template.name, Template.field, renderText?_text,
      renderText?_value, renderText?_eachField, renderText?_countFields, renderText?_ifFields,
      renderText?_nil, resolve?_name, resolve?_field, display_string, mapM_some, ite_some,
      Option.map_some, Option.bind_some, ValueText.assertion, ValueText.structField,
      ValueText.declaration, ValueText.nullValue, ValueText.unknownValue, ValueText.wireType,
      ValueText.wireValue, ValueText.wireVariables, ValueText.toTerraformValue, ValueText.isNull,
      ValueText.isUnknown, ValueText.string, ValueText.comparison, ValueText.equal, ValueText.type,
      ValueText.attributeType, ValueText.attributeTypes, eachField, toString_string,
      String.join_cons, String.join_nil, String.append_assoc, String.append_empty]

/-- The section that looks at collections: its groups differ for fields that are collections. -/
theorem text_toObjectValue : renderText? (typeScope name fields) ObjectValue.toObjectValue =
    some (ValueText.toObjectValue name fields) := by
  simp only [ObjectValue.toObjectValue, Template.name, renderText?_text, renderText?_value,
    renderText?_eachField, renderText?_nil, resolve?_name, display_string, Option.bind_some]
  rw [@mapM_some_of FieldTexts _ ValueText.collectionValue ?collection,
    @mapM_some_of FieldTexts _ ValueText.mapEntry ?entry]
  case collection =>
    intro field
    rw [renderText?_ifCollection, ValueText.collectionValue]
    cases hc : field.collection with
    | none => rfl
    | some c =>
      simp only [Option.isSome_some, if_true, Template.field, Template.ofCollection,
        renderText?_text, renderText?_value, renderText?_nil, resolve?_field,
        resolve?_collection _ hc, display_string, Option.map_some, Option.bind_some,
        toString_string, String.join_cons, String.join_nil, String.append_assoc,
        String.append_empty]
  case entry =>
    intro field
    rw [renderText?_ifCollection, ValueText.mapEntry]
    cases hc : field.collection <;>
      simp only [Option.isSome_some, Option.isSome_none, Bool.false_eq_true, if_true, if_false,
        Template.field, renderText?_text, renderText?_value, renderText?_nil, resolve?_field,
        display_string, Option.map_some, Option.bind_some, toString_string, String.append_assoc,
        String.append_empty]
  simp only [Option.map_some, Option.bind_some, ValueText.toObjectValue, eachField,
    toString_string, String.join_cons, String.join_nil, String.append_assoc, String.append_empty]

/-- **The template of a type** renders to the text of the type, whatever it is rendered for. -/
theorem render_objectType (label : String) :
    objectType.render label (typeContext name fields) = .ok (TypeText.print name fields) := by
  obtain ⟨hassertion, hdeclaration, hequal, hstring, hobject, hterraform, hvalue⟩ :=
    text_objectType name fields
  refine render_eq_ok label ?_
  show renderText? (typeScope name fields) objectType.pieces = _
  simp only [objectType, renderText?_append, hassertion, hdeclaration, hequal, hstring, hobject,
    hterraform, hvalue, Option.bind_some, Option.map_some, TypeText.print]

/-- **The template of values** renders to the text of the values, whatever it is rendered for. -/
theorem render_objectValue (label : String) :
    objectValue.render label (typeContext name fields) = .ok (ValueText.print name fields) := by
  obtain ⟨hassertion, hdeclaration, hnull, hunknown, hterraform, hisNull, hisUnknown, hstring,
    hequal, htype, htypes⟩ := text_objectValue name fields
  refine render_eq_ok label ?_
  show renderText? (typeScope name fields) objectValue.pieces = _
  simp only [objectValue, renderText?_append, hassertion, hdeclaration, hnull, hunknown,
    hterraform, hisNull, hisUnknown, hstring, text_toObjectValue, hequal, htype, htypes,
    Option.bind_some, Option.map_some, ValueText.print]

end Sections

end Template

/-! ### Type pairs -/

/-- The texts of a field of a generated type. -/
def FieldDescriptor.texts (field : FieldDescriptor) : FieldTexts where
  name := field.name
  pascal := field.pascal
  camel := field.camel
  valueType := field.valueType.text
  attributeType := field.attributeType.text
  collection := field.collection.map fun c => ⟨c.shape.framework, c.elementType.text⟩

theorem FieldDescriptor.context_eq (field : FieldDescriptor) :
    field.context = field.texts.context := by
  obtain ⟨name, valueType, attributeType, _ | collection⟩ := field <;> rfl

/-- **The pair of an object** is the text of its type and then that of its values. -/
theorem NestedObject.typePair_eq_print (name : String) (object : NestedObject Node) :
    object.typePair name =
      .ok (TypeText.print (Name.pascal name) (object.fieldDescriptors.map FieldDescriptor.texts) ++
        ValueText.print (Name.pascal name)
          (object.fieldDescriptors.map FieldDescriptor.texts)) := by
  have hcontext : object.context name =
      typeContext (Name.pascal name) (object.fieldDescriptors.map FieldDescriptor.texts) := by
    have hfields : object.fieldDescriptors.map FieldDescriptor.context =
        (object.fieldDescriptors.map FieldDescriptor.texts).map FieldTexts.context := by
      rw [List.map_map]
      exact List.map_congr_left fun field _ => field.context_eq
    rw [context, typeContext, hfields]
  rw [typePair, hcontext, Template.render_objectType, Template.render_objectValue]
  rfl

end ProviderCode
