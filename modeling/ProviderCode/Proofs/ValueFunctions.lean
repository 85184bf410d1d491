import ProviderCode.Proofs.Statements

/-!
# The functions of generated values

The functions that make a generated value without fields and its methods, statement by statement: each is
printed as its section of the text, for every name and all fields.

All their local variables are read.  Those that only fields need are declared where there are fields.
-/

namespace ProviderCode

open Statement

namespace ValueFunction

def nullValue (name : String) : GeneratedFunction where
  header := s!"func New{name}ValueNull() {name}Value \x7b\n"
  body := [.run [.code "return ", .given name, .code "Value\x7b\n\t\tstate: attr.ValueStateNull,\n\t\x7d"]]

def unknownValue (name : String) : GeneratedFunction where
  header := s!"func New{name}ValueUnknown() {name}Value \x7b\n"
  body := [
    .run [.code "return ", .given name, .code "Value\x7b\n\t\tstate: attr.ValueStateUnknown,\n\t\x7d"]]

/-- The variables that the values of fields need. -/
def wireVariables (fields : List FieldTexts) : List Statement :=
  if fields.isEmpty then []
  else [.blank, .variable "val" [.code "tftypes.Value"], .variable "err" [.code "error"]]

/-- The type of a field in the wire format. -/
def wireType (field : FieldTexts) : List Statement := [
  .blank,
  .run [.read "attrTypes", .code "[\"", .given field.name, .code "\"] = ", .given field.attributeType,
    .code ".TerraformType(ctx)"]]

/-- The value of a field in the wire format. -/
def wireValue (field : FieldTexts) : List Statement := [
  .blank,
  .assign ["val", "err"] [.code "v.", .given field.pascal, .code ".ToTerraformValue(ctx)"],
  .blank,
  .scope [.code "if ", .read "err", .code " != nil"] [
    .run [.code "return tftypes.NewValue(", .read "objectType", .code ", tftypes.UnknownValue), ",
      .read "err"]],
  .blank,
  .run [.read "vals", .code "[\"", .given field.name, .code "\"] = ", .read "val"]]

/-- The end of the case in which the value is known: the check of the fields' values. -/
def knownResult : List Statement := [
  .blank,
  .scopeOf "if" ["err"]
    [.code "tftypes.ValidateValue(", .read "objectType", .code ", ", .read "vals", .code ")"]
    [.code "; ", .read "err", .code " != nil"] [
    .run [.code "return tftypes.NewValue(", .read "objectType", .code ", tftypes.UnknownValue), ",
      .read "err"]],
  .blank,
  .run [.code "return tftypes.NewValue(", .read "objectType", .code ", ", .read "vals", .code "), nil"]]

/-- The case in which the value is known. -/
def known (fields : List FieldTexts) : List Statement :=
  [.declare ["vals"] [.code "make(map[string]tftypes.Value, ", .given (toString fields.length),
      .code ")"]] ++
    (fields.flatMap wireValue ++ knownResult)

/-- The value by its state. -/
def wireResult (fields : List FieldTexts) : List Statement := [
  .blank,
  .declare ["objectType"] [.code "tftypes.Object\x7bAttributeTypes: ", .read "attrTypes", .code "\x7d"],
  .blank,
  .scope [.code "switch v.state"] [
    .branch [.code "case attr.ValueStateKnown"] (known fields),
    .branch [.code "case attr.ValueStateNull"] [
      .run [.code "return tftypes.NewValue(", .read "objectType", .code ", nil), nil"]],
    .branch [.code "case attr.ValueStateUnknown"] [
      .run [.code "return tftypes.NewValue(", .read "objectType", .code ", tftypes.UnknownValue), nil"]],
    .branch [.code "default"] [
      .run [.code "panic(fmt.Sprintf(\"unhandled Object state in ToTerraformValue: %s\", v.state))"]]]]

def toTerraformValue (name : String) (fields : List FieldTexts) : GeneratedFunction where
  header := s!"func (v {name}Value) ToTerraformValue(ctx context.Context) (tftypes.Value, error) \x7b\n"
  body :=
    [.declare ["attrTypes"] [.code "make(map[string]tftypes.Type, ", .given (toString fields.length),
      .code ")"]] ++
    (wireVariables fields ++ (fields.flatMap wireType ++ wireResult fields))

def isNull (name : String) : GeneratedFunction where
  header := s!"func (v {name}Value) IsNull() bool \x7b\n"
  body := [.run [.code "return v.state == attr.ValueStateNull"]]

def isUnknown (name : String) : GeneratedFunction where
  header := s!"func (v {name}Value) IsUnknown() bool \x7b\n"
  body := [.run [.code "return v.state == attr.ValueStateUnknown"]]

def string (name : String) : GeneratedFunction where
  header := s!"func (v {name}Value) String() string \x7b\n"
  body := [.run [.code "return \"", .given name, .code "Value\""]]

/-- The value of a field that is a collection, with the type of its elements. -/
def collectionValue (field : FieldTexts) : List Statement :=
  match field.collection with
  | none => []
  | some c => [
    .blank,
    .variable (field.camel ++ "Val") [.code "basetypes.", .given c.kind, .code "Value"],
    .scope [.code "switch"] [
      .branch [.code "case v.", .given field.pascal, .code ".IsUnknown()"] [
        .assign [field.camel ++ "Val"]
          [.code "types.", .given c.kind, .code "Unknown(", .given c.elementType, .code ")"]],
      .branch [.code "case v.", .given field.pascal, .code ".IsNull()"] [
        .assign [field.camel ++ "Val"]
          [.code "types.", .given c.kind, .code "Null(", .given c.elementType, .code ")"]],
      .branch [.code "default"] [
        .variable "d" [.code "diag.Diagnostics"],
        .assign [field.camel ++ "Val", "d"] [.code "types.", .given c.kind, .code "Value(",
          .given c.elementType, .code ", v.", .given field.pascal, .code ".Elements())"],
        .run [.read "diags", .code ".Append(", .read "d", .code "...)"]]],
    .blank,
    .scope [.code "if ", .read "diags", .code ".HasError()"] [
      .run [.code "return types.ObjectUnknown(", .read "attributeTypes", .code "), ", .read "diags"]]]

/-- A field in the map of an object's values. -/
def mapEntry (field : FieldTexts) : Words :=
  match field.collection with
  | some _ =>
    [.code "\t\t\t\"", .given field.name, .code "\": ", .read (field.camel ++ "Val"), .code ",\n"]
  | none =>
    [.code "\t\t\t\"", .given field.name, .code "\": v.", .given field.pascal, .code ",\n"]

/-- The object that is made. -/
def objectResult (fields : List FieldTexts) : List Statement := [
  .blank,
  .scope [.code "if v.IsNull()"] [
    .run [.code "return types.ObjectNull(", .read "attributeTypes", .code "), ", .read "diags"]],
  .blank,
  .scope [.code "if v.IsUnknown()"] [
    .run [.code "return types.ObjectUnknown(", .read "attributeTypes", .code "), ", .read "diags"]],
  .blank,
  .declare ["objVal", "d"] ([.code "types.ObjectValue(\n\t\t", .read "attributeTypes",
    .code ",\n\t\tmap[string]attr.Value\x7b\n"] ++ (fields.flatMap mapEntry ++ [.code "\t\t\x7d)"])),
  .run [.read "diags", .code ".Append(", .read "d", .code "...)"],
  .blank,
  .run [.code "return ", .read "objVal", .code ", ", .read "diags"]]

def toObjectValue (name : String) (fields : List FieldTexts) : GeneratedFunction where
  header := s!"func (v {name}Value) ToObjectValue(ctx context.Context) (basetypes.ObjectValue, diag.Diagnostics) \x7b\n"
  body :=
    [.variable "diags" [.code "diag.Diagnostics"],
      .blank,
      .declare ["attributeTypes"] [.code "v.AttributeTypes(ctx)"]] ++
    (fields.flatMap collectionValue ++ objectResult fields)

/-- The comparison of a field. -/
def comparison (field : FieldTexts) : List Statement := [
  .blank,
  .scope [.code "if !v.", .given field.pascal, .code ".Equal(", .read "other", .code ".",
      .given field.pascal, .code ")"] [
    .run [.code "return false"]]]

def equal (name : String) (fields : List FieldTexts) : GeneratedFunction where
  header := s!"func (v {name}Value) Equal(o attr.Value) bool \x7b\n"
  body :=
    [.declare ["other", "ok"] [.code "o.(", .given name, .code "Value)"],
      .blank,
      .scope [.code "if !", .read "ok"] [.run [.code "return false"]],
      .blank,
      .scope [.code "if v.state != ", .read "other", .code ".state"] [.run [.code "return false"]],
      .blank,
      .scope [.code "if v.state != attr.ValueStateKnown"] [.run [.code "return true"]]] ++
    (fields.flatMap comparison ++ [.blank, .run [.code "return true"]])

def type (name : String) : GeneratedFunction where
  header := s!"func (v {name}Value) Type(ctx context.Context) attr.Type \x7b\n"
  body := [.run [.code "return ", .given name,
    .code "Type\x7b\n\t\tbasetypes.ObjectType\x7b\n\t\t\tAttrTypes: v.AttributeTypes(ctx),\n\t\t\x7d,\n\t\x7d"]]

/-- The type of a field. -/
def attributeType (field : FieldTexts) : Words :=
  [.code "\t\t\"", .given field.name, .code "\": ", .given field.attributeType, .code ",\n"]

def attributeTypes (name : String) (fields : List FieldTexts) : GeneratedFunction where
  header := s!"func (v {name}Value) AttributeTypes(ctx context.Context) map[string]attr.Type \x7b\n"
  body := [.run ([.code "return map[string]attr.Type\x7b\n"] ++ (fields.flatMap attributeType ++
    [.code "\t\x7d"]))]

/-- The functions of values. -/
def all (name : String) (fields : List FieldTexts) : List GeneratedFunction := [
  nullValue name, unknownValue name, toTerraformValue name fields, isNull name, isUnknown name,
  string name, toObjectValue name fields, equal name fields, type name, attributeTypes name fields]

/-! ### Fields -/

/-- The groups of a field are printed as its sections. -/
theorem texts_field (field : FieldTexts) :
    texts 1 (wireType field) = ValueText.wireType field ∧
      texts 2 (wireValue field) = ValueText.wireValue field ∧
      texts 1 (collectionValue field) = ValueText.collectionValue field ∧
      Words.text (mapEntry field) = ValueText.mapEntry field ∧
      texts 1 (comparison field) = ValueText.comparison field ∧
      Words.text (attributeType field) = ValueText.attributeType field := by
  obtain ⟨name, pascal, camel, valueType, attributeType, _ | c⟩ := field
  all_goals
    simp only [← String.toList_inj]
    simp [wireType, wireValue, collectionValue, mapEntry, comparison, ValueFunction.attributeType,
      ValueText.wireType, ValueText.wireValue, ValueText.collectionValue, ValueText.mapEntry,
      ValueText.comparison, ValueText.attributeType, Template.toString_string,
      -String.reduceToList, -String.reduceAppend]
    simp -index only [String.toList_ofList, List.cons_append, List.nil_append, and_self]

/-- No declaration is hidden in the fixed texts of a field's groups. -/
theorem hidesNothing_field (field : FieldTexts) :
    hidesNothing (wireType field) = true ∧ hidesNothing (wireValue field) = true ∧
      hidesNothing (collectionValue field) = true ∧ Words.hidesNothing (mapEntry field) = true ∧
      hidesNothing (comparison field) = true ∧ Words.hidesNothing (attributeType field) = true := by
  obtain ⟨name, pascal, camel, valueType, attributeType, _ | c⟩ := field
  all_goals
    simp only [wireType, wireValue, collectionValue, mapEntry, comparison,
      ValueFunction.attributeType, hidesNothing, Words.hidesNothing, allCodes, codes,
      Words.codes_cons, Words.codes_nil, Word.codes, List.all_append, List.all_cons, List.all_nil]
    simp -index only [declaresNothing, String.toList_ofList]
    decide

/-! ### Texts -/

variable (fields : List FieldTexts)

set_option maxRecDepth 8000 in
/-- The functions are printed as the sections of the values. -/
theorem map_text_all (name : String) :
    (all name fields).map GeneratedFunction.text = [ValueText.nullValue name,
      ValueText.unknownValue name, ValueText.toTerraformValue name fields, ValueText.isNull name,
      ValueText.isUnknown name, ValueText.string name, ValueText.toObjectValue name fields,
      ValueText.equal name fields, ValueText.type name, ValueText.attributeTypes name fields] := by
  apply List.map_injective_iff.mpr fun _ _ => String.toList_injective
  simp [all, nullValue, unknownValue, toTerraformValue, wireVariables, wireResult, known, knownResult,
    isNull, isUnknown, string, toObjectValue, objectResult, equal, type, attributeTypes,
    ValueText.nullValue, ValueText.unknownValue, ValueText.toTerraformValue, ValueText.wireVariables,
    ValueText.isNull, ValueText.isUnknown, ValueText.string, ValueText.toObjectValue, ValueText.equal,
    ValueText.type, ValueText.attributeTypes, texts_append, texts_flatMap, Words.text_flatMap,
    texts_field, apply_ite (texts 1), apply_ite String.toList, Template.toString_string,
    -String.reduceToList, -String.reduceAppend]
  simp -index only [String.toList_ofList, List.cons_append, List.nil_append, true_and]

theorem print_eq_functions (name : String) :
    ValueText.print name fields = ValueText.assertion name ++ ValueText.declaration name fields ++
      String.join ((all name fields).map GeneratedFunction.text) := by
  rw [map_text_all, ValueText.print]
  simp only [String.join_cons, String.join_nil, String.append_empty, String.append_assoc]

/-- No declaration is hidden in the fixed texts of the functions. -/
theorem hidesNothing_all (name : String) :
    ((all name fields).all fun f => hidesNothing f.body) = true := by
  have hfields := hidesNothing_field
  simp only [forall_and] at hfields
  obtain ⟨htype, hvalue, hcollection, hentry, hcomparison, hattribute⟩ := hfields
  have htypes := hidesNothing_flatMap htype fields
  have hvalues := hidesNothing_flatMap hvalue fields
  have hcollections := hidesNothing_flatMap hcollection fields
  have hentries := Words.hidesNothing_flatMap hentry fields
  have hcomparisons := hidesNothing_flatMap hcomparison fields
  have hattributes := Words.hidesNothing_flatMap hattribute fields
  rw [hidesNothing] at htypes hvalues hcollections hcomparisons
  rw [Words.hidesNothing] at hentries hattributes
  simp only [all, nullValue, unknownValue, toTerraformValue, wireVariables, wireResult, known,
    knownResult, isNull, isUnknown, string, toObjectValue, objectResult, equal, type, attributeTypes,
    hidesNothing, List.all_cons, List.all_nil, allCodes_append, apply_ite allCodes,
    apply_ite (List.all · declaresNothing), allCodes, codes, Words.codes_append, Words.codes_cons,
    Words.codes_nil, Word.codes, List.all_append, htypes, hvalues, hcollections, hentries,
    hcomparisons, hattributes]
  simp -index only [declaresNothing, String.toList_ofList]
  generalize fields.isEmpty = isEmpty
  revert isEmpty
  decide

/-! ### Variables -/

/-- In the case in which the value is known, what is declared is read, whatever the fields. -/
theorem unread_known : unread [] (known fields) = [] := by
  have hvalues : unread (knownResult.flatMap reads ++ []) (fields.flatMap wireValue) = [] :=
    unread_flatMap fun field _ later _ => by simp [wireValue]
  rw [known, unread_append, unread_append, hvalues]
  simp [knownResult]

/-- The variables that are declared if there are fields are read if there are. -/
theorem reads_known (field : FieldTexts) :
    "val" ∈ readsInside (known (field :: fields)) ∧
      "err" ∈ readsInside (known (field :: fields)) := by
  simp [known, wireValue]

theorem unread_wireVariables {later : List String}
    (h : (wireResult fields).flatMap reads ⊆ later) : unread later (wireVariables fields) = [] := by
  cases fields with
  | nil => rfl
  | cons field rest =>
    obtain ⟨hval, herr⟩ := reads_known rest field
    have hvalLater : "val" ∈ later := h (by simp [wireResult, hval])
    have herrLater : "err" ∈ later := h (by simp [wireResult, herr])
    simp [wireVariables, hvalLater, herrLater]

theorem unread_toTerraformValue (name : String) : (toTerraformValue name fields).unread = [] := by
  have htypes : unread ((wireResult fields).flatMap reads ++ []) (fields.flatMap wireType) = [] :=
    unread_flatMap fun field _ later _ => by simp [wireType]
  have hresult : unread [] (wireResult fields) = [] := by
    simp [wireResult, unread_known]
  have hvariables : unread ((fields.flatMap wireType ++ wireResult fields).flatMap reads ++ [])
      (wireVariables fields) = [] := by
    refine unread_wireVariables fields fun name hname => ?_
    rw [List.flatMap_append]
    exact List.mem_append_left _ (List.mem_append_right _ hname)
  rw [GeneratedFunction.unread, toTerraformValue, unread_append, unread_append, unread_append,
    hvariables, htypes, hresult]
  simp [wireResult]

/-- The value of a collection is read where the object is made. -/
theorem unread_collectionValue {field : FieldTexts} {later : List String}
    (h : Words.reads (mapEntry field) ⊆ later) : unread later (collectionValue field) = [] := by
  obtain ⟨name, pascal, camel, valueType, attributeType, _ | c⟩ := field
  · rfl
  · have hval : camel ++ "Val" ∈ later := h (by simp [mapEntry])
    simp [collectionValue, hval]

theorem unread_toObjectValue (name : String) : (toObjectValue name fields).unread = [] := by
  have hvalues :
      unread ((objectResult fields).flatMap reads ++ []) (fields.flatMap collectionValue) = [] := by
    refine unread_flatMap_of_members (fun _ _ => unread_collectionValue) fun name hname => ?_
    simp [objectResult, hname]
  rw [GeneratedFunction.unread, toObjectValue, unread_append, unread_append, hvalues]
  simp [objectResult]

theorem unread_equal (name : String) : (equal name fields).unread = [] := by
  have hcomparisons : unread ([.blank, .run [.code "return true"]].flatMap reads ++ [])
      (fields.flatMap comparison) = [] :=
    unread_flatMap fun field _ later _ => by simp [comparison]
  rw [GeneratedFunction.unread, equal, unread_append, unread_append, hcomparisons]
  simp

/-- All functions read all their variables. -/
theorem unread_eq_nil {name : String} {fields : List FieldTexts} {f : GeneratedFunction}
    (h : f ∈ all name fields) : f.unread = [] := by
  have htypes : (attributeTypes name fields).unread = [] := by
    simp [GeneratedFunction.unread, attributeTypes]
  simp only [all, List.mem_cons, List.not_mem_nil, or_false] at h
  rcases h with rfl | rfl | rfl | rfl | rfl | rfl | rfl | rfl | rfl | rfl
  · rfl
  · rfl
  · exact unread_toTerraformValue fields name
  · rfl
  · rfl
  · rfl
  · exact unread_toObjectValue fields name
  · exact unread_equal fields name
  · rfl
  · exact htypes

end ValueFunction

end ProviderCode
