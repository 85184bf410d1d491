import ProviderCode.Proofs.Adaptable
import ProviderCode.Proofs.PrintedTypes

/-!
# Adapters, printed directly

What the template of adapters renders to, as text with the names and types put in and, in each
section that lists the fields, one group of lines for each field.  Fields that are objects have
groups of their own, and values of other fields are wrapped where a custom value type is given.

Main statement: all three templates render to the text that is printed directly, whatever the texts
of the names, types and fields are.
-/

namespace ProviderCode

open Json (Value)

/-! ### Conversions -/

/-- A field that is converted, as the template of adapters knows it. -/
structure ConversionTexts where
  name : String
  pascal : String
  camel : String
  /-- Whether the field is converted by its own adapters. -/
  object : Bool
  toMethod : String
  fromFunction : String
  base : String
  customValueType : Option String
  typeName : String
  suffix : String

/-- What the template of adapters knows of a value and its external type. -/
structure AdapterTexts where
  name : String
  externalType : String
  typeReference : String
  pointer : Bool
  zero : String
  suffix : String
  fields : List ConversionTexts

namespace ConversionTexts

/-- The conversion in a context; one without a custom value type has no member for it. -/
def context (field : ConversionTexts) : Value :=
  .object ([
    ("name", .string field.name),
    ("pascal", .string field.pascal),
    ("camel", .string field.camel),
    ("object", .bool field.object),
    ("to", .string field.toMethod),
    ("from", .string field.fromFunction),
    ("base", .string field.base)] ++
    (field.customValueType.map fun type => ("custom_value_type", Value.string type)).toList ++ [
    ("type_name", .string field.typeName),
    ("suffix", .string field.suffix)])

/-- The type that the value is wrapped in; empty if it is not wrapped. -/
def wrapper (field : ConversionTexts) : String := field.customValueType.getD ""

end ConversionTexts

def AdapterTexts.context (adapter : AdapterTexts) : Value :=
  .object [
    ("name", .string adapter.name),
    ("external_type", .string adapter.externalType),
    ("type_reference", .string adapter.typeReference),
    ("pointer", .bool adapter.pointer),
    ("zero", .string adapter.zero),
    ("suffix", .string adapter.suffix),
    ("fields", .array (adapter.fields.map ConversionTexts.context))]

/-! ### Texts -/

namespace AdapterText

/-- The conversion of a field that is an object, by its own adapters. -/
def toObject (zero : String) (field : ConversionTexts) : String :=
  if field.object then String.join [
    "\n",
    s!"\t{field.camel}Object, d := {field.typeName}Type\x7b\x7d.ValueFromObject(ctx, v.{field.pascal})\n",
    "\tdiags.Append(d...)\n",
    "\n",
    "\tif diags.HasError() \x7b\n",
    s!"\t\treturn {zero}, diags\n",
    "\t\x7d\n",
    "\n",
    s!"\t{field.camel}Field, d := {field.camel}Object.({field.typeName}Value).To{field.suffix}(ctx)\n",
    "\tdiags.Append(d...)\n",
    "\n",
    "\tif diags.HasError() \x7b\n",
    s!"\t\treturn {zero}, diags\n",
    "\t\x7d\n"]
  else ""

/-- A field in the literal of the external type. -/
def toMember (field : ConversionTexts) : String :=
  if field.object then s!"\t\t{field.pascal}: {field.camel}Field,\n"
  else s!"\t\t{field.pascal}: v.{field.pascal}.{field.toMethod}(),\n"

/-- Converts a value to the external type. -/
def toExternal (adapter : AdapterTexts) : String := String.join [
  "\n",
  s!"func (v {adapter.name}Value) To{adapter.suffix}(ctx context.Context) ({adapter.externalType}, diag.Diagnostics) \x7b\n",
  "\tvar diags diag.Diagnostics\n",
  "\n",
  "\tif v.IsNull() \x7b\n",
  s!"\t\treturn {adapter.zero}, diags\n",
  "\t\x7d\n",
  "\n",
  "\tif v.IsUnknown() \x7b\n",
  "\t\tdiags.Append(diag.NewErrorDiagnostic(\n",
  s!"\t\t\t\"{adapter.name}Value Value Is Unknown\",\n",
  s!"\t\t\t`\"{adapter.name}Value\" is unknown.`,\n",
  "\t\t))\n",
  "\n",
  s!"\t\treturn {adapter.zero}, diags\n",
  "\t\x7d\n",
  eachField (toObject adapter.zero) adapter.fields,
  "\n",
  "\treturn ",
  if adapter.pointer then "&" else "",
  s!"{adapter.typeReference}\x7b\n",
  eachField toMember adapter.fields,
  "\t\x7d, diags\n",
  "\x7d\n"]

/-- A null value for an external value that is not there. -/
def fromNothing (adapter : AdapterTexts) : String :=
  if adapter.pointer then String.join [
    "\n",
    "\tif apiObject == nil \x7b\n",
    s!"\t\treturn New{adapter.name}ValueNull(), diags\n",
    "\t\x7d\n"]
  else ""

/-- The conversion of a field that is an object, by its own adapters. -/
def fromObject (name : String) (field : ConversionTexts) : String :=
  if field.object then String.join [
    "\n",
    s!"\t{field.camel}Value, d := {field.typeName}Value\x7b\x7d.From{field.suffix}(ctx, apiObject.{field.pascal})\n",
    "\tdiags.Append(d...)\n",
    "\n",
    "\tif diags.HasError() \x7b\n",
    s!"\t\treturn New{name}ValueUnknown(), diags\n",
    "\t\x7d\n",
    "\n",
    s!"\t{field.camel}Field, d := {field.camel}Value.ToObjectValue(ctx)\n",
    "\tdiags.Append(d...)\n",
    "\n",
    "\tif diags.HasError() \x7b\n",
    s!"\t\treturn New{name}ValueUnknown(), diags\n",
    "\t\x7d\n"]
  else ""

/-- A field in the literal of the value: an object, a wrapped value, or a value of the framework. -/
def fromMember (field : ConversionTexts) : String :=
  if field.object then s!"\t\t{field.pascal}: {field.camel}Field,\n"
  else if field.wrapper.isEmpty then
    s!"\t\t{field.pascal}: types.{field.fromFunction}(apiObject.{field.pascal}),\n"
  else String.join [
    s!"\t\t{field.pascal}: {field.wrapper}\x7b\n",
    s!"\t\t\t{field.base}Value: types.{field.fromFunction}(apiObject.{field.pascal}),\n",
    "\t\t\x7d,\n"]

/-- Converts the external type to a value. -/
def fromExternal (adapter : AdapterTexts) : String := String.join [
  "\n",
  s!"func (v {adapter.name}Value) From{adapter.suffix}(ctx context.Context, apiObject {adapter.externalType}) ({adapter.name}Value, diag.Diagnostics) \x7b\n",
  "\tvar diags diag.Diagnostics\n",
  fromNothing adapter,
  eachField (fromObject adapter.name) adapter.fields,
  "\n",
  s!"\treturn {adapter.name}Value\x7b\n",
  eachField fromMember adapter.fields,
  "\t\tstate: attr.ValueStateKnown,\n",
  "\t\x7d, diags\n",
  "\x7d\n"]

/-- The adapters of a value. -/
def print (adapter : AdapterTexts) : String := toExternal adapter ++ fromExternal adapter

end AdapterText

/-! ### Rendering -/

namespace Template

/-- The scope in which the template of adapters is rendered. -/
def adapterScope (adapter : AdapterTexts) : Scope := { context := adapter.context }

section Places

variable (adapter : AdapterTexts) (scope : Scope) (field : ConversionTexts)

/-- What the places outside the fields lead to. -/
theorem resolve?_adapter :
    (adapterScope adapter).resolve? ⟨"name", []⟩ = some (some (.string adapter.name)) ∧
    (adapterScope adapter).resolve? ⟨"external_type", []⟩ =
      some (some (.string adapter.externalType)) ∧
    (adapterScope adapter).resolve? ⟨"type_reference", []⟩ =
      some (some (.string adapter.typeReference)) ∧
    (adapterScope adapter).resolve? ⟨"pointer", []⟩ = some (some (.bool adapter.pointer)) ∧
    (adapterScope adapter).resolve? ⟨"zero", []⟩ = some (some (.string adapter.zero)) ∧
    (adapterScope adapter).resolve? ⟨"suffix", []⟩ = some (some (.string adapter.suffix)) :=
  ⟨rfl, rfl, rfl, rfl, rfl, rfl⟩

/-- The places that groups of fields have in common with the text around them. -/
theorem resolve?_around (value : Value) :
    ((adapterScope adapter).bind "field" value).resolve? ⟨"name", []⟩ =
      some (some (.string adapter.name)) ∧
    ((adapterScope adapter).bind "field" value).resolve? ⟨"zero", []⟩ =
      some (some (.string adapter.zero)) :=
  ⟨rfl, rfl⟩

/-- What the places of a conversion lead to. -/
theorem resolve?_conversion :
    (scope.bind "field" field.context).resolve? ⟨"field", ["pascal"]⟩ =
      some (some (.string field.pascal)) ∧
    (scope.bind "field" field.context).resolve? ⟨"field", ["camel"]⟩ =
      some (some (.string field.camel)) ∧
    (scope.bind "field" field.context).resolve? ⟨"field", ["object"]⟩ =
      some (some (.bool field.object)) ∧
    (scope.bind "field" field.context).resolve? ⟨"field", ["to"]⟩ =
      some (some (.string field.toMethod)) ∧
    (scope.bind "field" field.context).resolve? ⟨"field", ["from"]⟩ =
      some (some (.string field.fromFunction)) ∧
    (scope.bind "field" field.context).resolve? ⟨"field", ["base"]⟩ =
      some (some (.string field.base)) ∧
    (scope.bind "field" field.context).resolve? ⟨"field", ["custom_value_type"]⟩ =
      some (field.customValueType.map .string) ∧
    (scope.bind "field" field.context).resolve? ⟨"field", ["type_name"]⟩ =
      some (some (.string field.typeName)) ∧
    (scope.bind "field" field.context).resolve? ⟨"field", ["suffix"]⟩ =
      some (some (.string field.suffix)) := by
  obtain ⟨name, pascal, camel, object, toMethod, fromFunction, base, _ | type, typeName, suffix⟩ :=
    field <;>
    exact ⟨rfl, rfl, rfl, rfl, rfl, rfl, rfl, rfl, rfl⟩

/-- A custom value type that is not given stands for nothing. -/
theorem display_wrapper : display (field.customValueType.map .string) = field.wrapper := by
  rw [ConversionTexts.wrapper]
  cases field.customValueType <;> rfl

theorem renderText?_eachConversion (body pieces : List Piece) :
    renderText? (adapterScope adapter) (.each "field" ⟨"fields", []⟩ body :: pieces) =
      (adapter.fields.mapM fun field =>
        renderText? ((adapterScope adapter).bind "field" field.context) body).bind fun texts =>
          (renderText? (adapterScope adapter) pieces).map (String.join texts ++ ·) := by
  have hfields : (adapterScope adapter).resolve? ⟨"fields", []⟩ =
      some (some (.array (adapter.fields.map ConversionTexts.context))) := rfl
  exact renderText?_each hfields "field" body pieces

/-- A part that is there if the external type is a pointer. -/
theorem renderText?_ifPointer (yes pieces : List Piece) :
    renderText? (adapterScope adapter) (.choose ⟨"pointer", []⟩ yes [] :: pieces) =
      (if adapter.pointer then renderText? (adapterScope adapter) yes else some "").bind fun text =>
        (renderText? (adapterScope adapter) pieces).map (text ++ ·) := by
  obtain ⟨-, -, -, hpointer, -⟩ := resolve?_adapter adapter
  rw [renderText?_choose, hpointer]
  rfl

/-- A part that differs for fields that are objects. -/
theorem renderText?_ifObject (yes no : List Piece) :
    renderText? (scope.bind "field" field.context) [.choose ⟨"field", ["object"]⟩ yes no] =
      if field.object then renderText? (scope.bind "field" field.context) yes
      else renderText? (scope.bind "field" field.context) no := by
  obtain ⟨-, -, hobject, -⟩ := resolve?_conversion scope field
  exact renderText?_only_choose hobject yes no

/-- A part that differs for fields with a custom value type. -/
theorem renderText?_ifWrapped (yes no : List Piece) :
    renderText? (scope.bind "field" field.context)
        [.choose ⟨"field", ["custom_value_type"]⟩ yes no] =
      if field.wrapper.isEmpty then renderText? (scope.bind "field" field.context) no
      else renderText? (scope.bind "field" field.context) yes := by
  obtain ⟨-, -, -, -, -, -, hcustom, -⟩ := resolve?_conversion scope field
  rw [renderText?_only_choose hcustom, ConversionTexts.wrapper]
  cases field.customValueType with
  | none => rfl
  | some type =>
    show (if (!type.isEmpty) = true then _ else _) = if type.isEmpty = true then _ else _
    cases type.isEmpty <;> rfl

end Places

/-- The two sections of adapters. -/
theorem text_adapters (adapter : AdapterTexts) :
    let text? := renderText? (adapterScope adapter)
    text? Adapters.toExternal = some (AdapterText.toExternal adapter) ∧
    text? Adapters.fromExternal = some (AdapterText.fromExternal adapter) := by
  refine ⟨?_, ?_⟩ <;>
    simp only [Adapters.toExternal, Adapters.fromExternal, Template.name, Template.field,
      renderText?_text, renderText?_value, renderText?_eachConversion, renderText?_ifPointer,
      renderText?_ifObject, renderText?_ifWrapped, renderText?_nil, resolve?_adapter,
      resolve?_around, resolve?_conversion, display_string, display_wrapper, mapM_some, ite_some,
      Option.map_some, Option.bind_some, AdapterText.toObject, AdapterText.toMember,
      AdapterText.toExternal, AdapterText.fromNothing, AdapterText.fromObject,
      AdapterText.fromMember, AdapterText.fromExternal, eachField, toString_string,
      String.join_cons, String.join_nil, String.append_assoc, String.append_empty]

/-- **The template of adapters** renders to the text of the adapters, whatever it is for. -/
theorem render_adapters (label : String) (adapter : AdapterTexts) :
    adapters.render label adapter.context = .ok (AdapterText.print adapter) := by
  obtain ⟨hto, hfrom⟩ := text_adapters adapter
  refine render_eq_ok label ?_
  show renderText? (adapterScope adapter) adapters.pieces = _
  simp only [adapters, renderText?_append, hto, hfrom, Option.bind_some, Option.map_some,
    AdapterText.print]

end Template

/-! ### Adapters of objects -/

/-- The texts of a conversion. -/
def Conversion.texts (c : Conversion) : ConversionTexts :=
  match c.exchange with
  | .scalar type wrapper =>
    { name := c.name, pascal := Name.pascal c.name, camel := Name.camel c.name, object := false
      toMethod := type.toMethod, fromFunction := type.fromFunction, base := type.framework
      customValueType := wrapper, typeName := "", suffix := "" }
  | .object suffix =>
    { name := c.name, pascal := Name.pascal c.name, camel := Name.camel c.name, object := true
      toMethod := "", fromFunction := "", base := "", customValueType := none
      typeName := Name.pascal c.name, suffix }

theorem Conversion.context_eq (c : Conversion) : c.context = c.texts.context := by
  obtain ⟨name, ⟨type, _ | wrapper⟩ | suffix⟩ := c <;> rfl

/-- The texts of the adapters of an object. -/
def Adapter.texts (adapter : Adapter) : AdapterTexts where
  name := Name.pascal adapter.name
  externalType := adapter.external.type
  typeReference := adapter.external.reference
  pointer := adapter.external.isPointer
  zero := adapter.external.zero
  suffix := adapter.external.suffix
  fields := adapter.fields.map Conversion.texts

theorem Adapter.render_eq (adapter : Adapter) :
    adapter.render = .ok (AdapterText.print adapter.texts) := by
  have hcontext : adapter.external.context adapter.name adapter.fields = adapter.texts.context := by
    have hfields : adapter.fields.map Conversion.context =
        (adapter.fields.map Conversion.texts).map ConversionTexts.context := by
      rw [List.map_map]
      exact List.map_congr_left fun c _ => c.context_eq
    rw [ExternalType.context, hfields]
    rfl
  rw [render, hcontext, Template.render_adapters]

/-! ### The theorem -/

/-- **Templates print directly.**  For every name and all fields, whatever their texts are, the
templates of a type and of its values render, and to the text that is printed directly: the name in
its places, and in each section one group of lines for each field, in order.  So does the template
of adapters for all conversions.  The pair of an object and its adapters are such texts. -/
theorem render_eq_print (label : String) :
    (∀ (name : String) (fields : List FieldTexts),
      Template.objectType.render label (typeContext name fields) =
        .ok (TypeText.print name fields) ∧
      Template.objectValue.render label (typeContext name fields) =
        .ok (ValueText.print name fields)) ∧
    (∀ adapter : AdapterTexts,
      Template.adapters.render label adapter.context = .ok (AdapterText.print adapter)) ∧
    (∀ object : NestedObject Node,
      let fields := object.fieldDescriptors.map FieldDescriptor.texts
      object.typePair label =
        .ok (TypeText.print (Name.pascal label) fields ++
          ValueText.print (Name.pascal label) fields)) ∧
    ∀ adapter : Adapter, adapter.render = .ok (AdapterText.print adapter.texts) :=
  ⟨fun name fields => ⟨Template.render_objectType name fields label,
      Template.render_objectValue name fields label⟩,
    fun adapter => Template.render_adapters label adapter,
    fun object => object.typePair_eq_print label, fun adapter => adapter.render_eq⟩

end ProviderCode
