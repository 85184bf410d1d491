import ProviderCode.Proofs.Statements

/-!
# The functions of a generated type

The functions that a generated type declares, statement by statement: each is printed as its section of
the text, for every name and all fields.

All their local variables are read, but for one.  The function that makes a value from an object declares
the object's attributes, whether or not there are fields to look up in them.
-/

namespace ProviderCode

open Statement

namespace TypeFunction

def equal (name : String) : GeneratedFunction where
  header := s!"func (t {name}Type) Equal(o attr.Type) bool \x7b\n"
  body := [
    .declare ["other", "ok"] [.code "o.(", .given name, .code "Type)"],
    .blank,
    .scope [.code "if !", .read "ok"] [.run [.code "return false"]],
    .blank,
    .run [.code "return t.ObjectType.Equal(", .read "other", .code ".ObjectType)"]]

def string (name : String) : GeneratedFunction where
  header := s!"func (t {name}Type) String() string \x7b\n"
  body := [.run [.code "return \"", .given name, .code "Type\""]]

/-- The look-up of a field in an object, and the assertion of its type. -/
def lookup (field : FieldTexts) : List Statement := [
  .blank,
  .declare [field.camel ++ "Attribute", "ok"]
    [.read "attributes", .code "[\"", .given field.name, .code "\"]"],
  .blank,
  .scope [.code "if !", .read "ok"] [
    .run [.read "diags", .code ".AddError(\n\t\t\t\"Attribute Missing\",\n\t\t\t`",
      .given field.name, .code " is missing from object`)"],
    .blank,
    .run [.code "return nil, ", .read "diags"]],
  .blank,
  .declare [field.camel ++ "Val", "ok"]
    [.read (field.camel ++ "Attribute"), .code ".(", .given field.valueType, .code ")"],
  .blank,
  .scope [.code "if !", .read "ok"] [
    .run [.read "diags", .code ".AddError(\n\t\t\t\"Attribute Wrong Type\",\n\t\t\tfmt.Sprintf(`",
      .given field.name, .code " expected to be ", .given field.valueType, .code ", was: %T`, ",
      .read (field.camel ++ "Attribute"), .code "))"]]]

/-- A field in the literal of a value. -/
def member (field : FieldTexts) : Words :=
  [.code "\t\t", .given field.pascal, .code ": ", .read (field.camel ++ "Val"), .code ",\n"]

/-- The value that is made. -/
def object (name : String) (fields : List FieldTexts) : List Statement := [
  .blank,
  .scope [.code "if ", .read "diags", .code ".HasError()"] [
    .run [.code "return nil, ", .read "diags"]],
  .blank,
  .run ([.code "return ", .given name, .code "Value\x7b\n"] ++ fields.flatMap member ++
    [.code "\t\tstate: attr.ValueStateKnown,\n\t\x7d, ", .read "diags"])]

def valueFromObject (name : String) (fields : List FieldTexts) : GeneratedFunction where
  header := s!"func (t {name}Type) ValueFromObject(ctx context.Context, in basetypes.ObjectValue) (basetypes.ObjectValuable, diag.Diagnostics) \x7b\n"
  body :=
    [.variable "diags" [.code "diag.Diagnostics"],
      .blank,
      .declare ["attributes"] [.code "in.Attributes()"]] ++
    fields.flatMap lookup ++ object name fields

def valueFromTerraform (name : String) : GeneratedFunction where
  header := s!"func (t {name}Type) ValueFromTerraform(ctx context.Context, in tftypes.Value) (attr.Value, error) \x7b\n"
  body := [
    .scope [.code "if in.Type() == nil"] [
      .run [.code "return New", .given name, .code "ValueNull(), nil"]],
    .blank,
    .scope [.code "if !in.Type().Equal(t.TerraformType(ctx))"] [
      .run [.code "return nil, fmt.Errorf(\"expected %s, got %s\", t.TerraformType(ctx), in.Type())"]],
    .blank,
    .scope [.code "if !in.IsKnown()"] [
      .run [.code "return New", .given name, .code "ValueUnknown(), nil"]],
    .blank,
    .scope [.code "if in.IsNull()"] [
      .run [.code "return New", .given name, .code "ValueNull(), nil"]],
    .blank,
    .declare ["attributes"] [.code "map[string]attr.Value\x7b\x7d"],
    .blank,
    .declare ["val"] [.code "map[string]tftypes.Value\x7b\x7d"],
    .blank,
    .declare ["err"] [.code "in.As(&", .read "val", .code ")"],
    .blank,
    .scope [.code "if ", .read "err", .code " != nil"] [
      .run [.code "return nil, ", .read "err"]],
    .blank,
    .scopeOf "for" ["k", "v"] [.code "range ", .read "val"] [] [
      .declare ["a", "err"] [.code "t.AttrTypes[", .read "k", .code "].ValueFromTerraform(ctx, ",
        .read "v", .code ")"],
      .blank,
      .scope [.code "if ", .read "err", .code " != nil"] [
        .run [.code "return nil, ", .read "err"]],
      .blank,
      .run [.read "attributes", .code "[", .read "k", .code "] = ", .read "a"]],
    .blank,
    .declare ["objectValue", "diags"]
      [.code "basetypes.NewObjectValue(t.AttrTypes, ", .read "attributes", .code ")"],
    .blank,
    .scope [.code "if ", .read "diags", .code ".HasError()"] [
      .run [.code "return nil, fmt.Errorf(\"unexpected error converting ", .given name,
        .code "Value: %v\", ", .read "diags", .code ")"]],
    .blank,
    .declare ["value", "diags"] [.code "t.ValueFromObject(ctx, ", .read "objectValue", .code ")"],
    .blank,
    .scope [.code "if ", .read "diags", .code ".HasError()"] [
      .run [.code "return nil, fmt.Errorf(\"unexpected error converting ", .given name,
        .code "Value: %v\", ", .read "diags", .code ")"]],
    .blank,
    .run [.code "return ", .read "value", .code ", nil"]]

def valueType (name : String) : GeneratedFunction where
  header := s!"func (t {name}Type) ValueType(ctx context.Context) attr.Value \x7b\n"
  body := [.run [.code "return ", .given name, .code "Value\x7b\x7d"]]

/-- The functions of a type. -/
def all (name : String) (fields : List FieldTexts) : List GeneratedFunction := [
  equal name, string name, valueFromObject name fields, valueFromTerraform name, valueType name]

/-! ### Fields -/

/-- The groups of a field are printed as its sections. -/
theorem texts_field (field : FieldTexts) :
    texts 1 (lookup field) = TypeText.lookup field ∧
      Words.text (member field) = TypeText.member field := by
  simp only [← String.toList_inj]
  simp [lookup, member, TypeText.lookup, TypeText.member, Template.toString_string,
    -String.reduceToList, -String.reduceAppend]
  simp -index only [String.toList_ofList, List.cons_append, List.nil_append, and_self]

/-- No declaration is hidden in the fixed texts of a field's groups. -/
theorem hidesNothing_field (field : FieldTexts) :
    hidesNothing (lookup field) = true ∧ Words.hidesNothing (member field) = true := by
  simp only [lookup, member, hidesNothing, Words.hidesNothing, allCodes, codes, Words.codes_cons,
    Words.codes_nil, Word.codes, List.all_append, List.all_cons, List.all_nil]
  simp -index only [declaresNothing, String.toList_ofList]
  decide

/-- The value of a field is read where the value of the object is made. -/
theorem unread_lookup {field : FieldTexts} {later : List String}
    (h : Words.reads (member field) ⊆ later) : unread later (lookup field) = [] := by
  have hval : field.camel ++ "Val" ∈ later := h (by simp [member])
  simp [lookup, hval]

/-! ### All functions -/

set_option maxRecDepth 4000 in
/-- The functions are printed as the sections of the type. -/
theorem map_text_all (name : String) (fields : List FieldTexts) :
    (all name fields).map GeneratedFunction.text = [TypeText.equal name, TypeText.string name,
      TypeText.valueFromObject name fields, TypeText.valueFromTerraform name,
      TypeText.valueType name] := by
  apply List.map_injective_iff.mpr fun _ _ => String.toList_injective
  simp [all, equal, string, valueFromObject, object, valueFromTerraform, valueType, TypeText.equal,
    TypeText.string, TypeText.valueFromObject, TypeText.valueFromTerraform, TypeText.valueType,
    texts_append, texts_flatMap, Words.text_flatMap, texts_field,
    Template.toString_string, -String.reduceToList, -String.reduceAppend]
  simp -index only [String.toList_ofList, List.cons_append, List.nil_append, true_and]

theorem print_eq_functions (name : String) (fields : List FieldTexts) :
    TypeText.print name fields = TypeText.assertion name ++ TypeText.declaration name ++
      String.join ((all name fields).map GeneratedFunction.text) := by
  rw [map_text_all, TypeText.print]
  simp only [String.join_cons, String.join_nil, String.append_empty, String.append_assoc]

/-- No declaration is hidden in the fixed texts of the functions. -/
theorem hidesNothing_all (name : String) (fields : List FieldTexts) :
    ((all name fields).all fun f => hidesNothing f.body) = true := by
  have hlookups := hidesNothing_flatMap (fun field => (hidesNothing_field field).1) fields
  have hmembers := Words.hidesNothing_flatMap (fun field => (hidesNothing_field field).2) fields
  rw [hidesNothing] at hlookups
  rw [Words.hidesNothing] at hmembers
  simp only [all, equal, string, valueFromObject, object, valueFromTerraform, valueType, hidesNothing,
    List.all_cons, List.all_nil, allCodes_append, allCodes, codes, Words.codes_append,
    Words.codes_cons, Words.codes_nil, Word.codes, List.all_append, hlookups, hmembers]
  simp -index only [declaresNothing, String.toList_ofList]
  decide

/-- The attributes of the object are read in the look-ups of the fields, and nowhere else. -/
theorem unread_valueFromObject (name : String) (fields : List FieldTexts) :
    (valueFromObject name fields).unread = if fields.isEmpty then ["attributes"] else [] := by
  have hlookups : unread ((object name fields).flatMap reads ++ []) (fields.flatMap lookup) = [] := by
    refine unread_flatMap_of_members (fun _ _ => unread_lookup) fun name hname => ?_
    simp [object, hname]
  rw [GeneratedFunction.unread, valueFromObject, unread_append, unread_append, hlookups]
  cases fields with
  | nil => rfl
  | cons field rest => simp [lookup, object]

/-- The other functions read all their variables. -/
theorem eq_or_unread_eq_nil {name : String} {fields : List FieldTexts} {f : GeneratedFunction}
    (h : f ∈ all name fields) : f = valueFromObject name fields ∨ f.unread = [] := by
  simp only [all, List.mem_cons, List.not_mem_nil, or_false] at h
  rcases h with rfl | rfl | rfl | rfl | rfl
  · exact .inr rfl
  · exact .inr rfl
  · exact .inl rfl
  · exact .inr rfl
  · exact .inr rfl

end TypeFunction

end ProviderCode
