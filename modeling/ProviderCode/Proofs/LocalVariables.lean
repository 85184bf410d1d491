import ProviderCode.Proofs.StructFields
import ProviderCode.Proofs.TypeFunctions
import ProviderCode.Proofs.ValueFunctions

/-!
# Local variables of generated functions

In the generated code a local variable has to be read later than it is declared.  The functions of types
and of values are taken apart elsewhere; here are those of adapters.

Main statement: every local variable is read later in its scope, in all functions of pairs and adapters,
but for one: the attributes of the object that a value is made from, where there are no fields.
-/

namespace ProviderCode

open Statement

/-! ### The functions of adapters -/

namespace AdapterFunction

/-- The conversion of a field that is an object, by its own adapters. -/
def toObject (zero : String) (field : ConversionTexts) : List Statement :=
  if field.object then [
    .blank,
    .declare [field.camel ++ "Object", "d"] [.given field.typeName,
      .code "Type\x7b\x7d.ValueFromObject(ctx, v.", .given field.pascal, .code ")"],
    .run [.read "diags", .code ".Append(", .read "d", .code "...)"],
    .blank,
    .scope [.code "if ", .read "diags", .code ".HasError()"] [
      .run [.code "return ", .given zero, .code ", ", .read "diags"]],
    .blank,
    .declare [field.camel ++ "Field", "d"] [.read (field.camel ++ "Object"), .code ".(",
      .given field.typeName, .code "Value).To", .given field.suffix, .code "(ctx)"],
    .run [.read "diags", .code ".Append(", .read "d", .code "...)"],
    .blank,
    .scope [.code "if ", .read "diags", .code ".HasError()"] [
      .run [.code "return ", .given zero, .code ", ", .read "diags"]]]
  else []

/-- A field in the literal of the external type. -/
def toMember (field : ConversionTexts) : Words :=
  if field.object then
    [.code "\t\t", .given field.pascal, .code ": ", .read (field.camel ++ "Field"), .code ",\n"]
  else
    [.code "\t\t", .given field.pascal, .code ": v.", .given field.pascal, .code ".",
      .given field.toMethod, .code "(),\n"]

/-- The external value that is made. -/
def toResult (adapter : AdapterTexts) : List Statement := [
  .blank,
  .run ([.code "return ", .given (if adapter.pointer then "&" else ""), .given adapter.typeReference,
    .code "\x7b\n"] ++ (adapter.fields.flatMap toMember ++ [.code "\t\x7d, ", .read "diags"]))]

/-- Converts a value to the external type. -/
def toExternal (adapter : AdapterTexts) : GeneratedFunction where
  header := s!"func (v {adapter.name}Value) To{adapter.suffix}(" ++
    s!"ctx context.Context) ({adapter.externalType}, diag.Diagnostics) \x7b\n"
  body :=
    [.variable "diags" [.code "diag.Diagnostics"],
      .blank,
      .scope [.code "if v.IsNull()"] [
        .run [.code "return ", .given adapter.zero, .code ", ", .read "diags"]],
      .blank,
      .scope [.code "if v.IsUnknown()"] [
        .run [.read "diags", .code ".Append(diag.NewErrorDiagnostic(\n\t\t\t\"", .given adapter.name,
          .code "Value Value Is Unknown\",\n\t\t\t`\"", .given adapter.name,
          .code "Value\" is unknown.`,\n\t\t))"],
        .blank,
        .run [.code "return ", .given adapter.zero, .code ", ", .read "diags"]]] ++
    (adapter.fields.flatMap (toObject adapter.zero) ++ toResult adapter)

/-- A null value for an external value that is not there. -/
def fromNothing (adapter : AdapterTexts) : List Statement :=
  if adapter.pointer then [
    .blank,
    .scope [.code "if apiObject == nil"] [
      .run [.code "return New", .given adapter.name, .code "ValueNull(), ", .read "diags"]]]
  else []

/-- The conversion of a field that is an object, by its own adapters. -/
def fromObject (name : String) (field : ConversionTexts) : List Statement :=
  if field.object then [
    .blank,
    .declare [field.camel ++ "Value", "d"] [.given field.typeName, .code "Value\x7b\x7d.From",
      .given field.suffix, .code "(ctx, apiObject.", .given field.pascal, .code ")"],
    .run [.read "diags", .code ".Append(", .read "d", .code "...)"],
    .blank,
    .scope [.code "if ", .read "diags", .code ".HasError()"] [
      .run [.code "return New", .given name, .code "ValueUnknown(), ", .read "diags"]],
    .blank,
    .declare [field.camel ++ "Field", "d"]
      [.read (field.camel ++ "Value"), .code ".ToObjectValue(ctx)"],
    .run [.read "diags", .code ".Append(", .read "d", .code "...)"],
    .blank,
    .scope [.code "if ", .read "diags", .code ".HasError()"] [
      .run [.code "return New", .given name, .code "ValueUnknown(), ", .read "diags"]]]
  else []

/-- A field in the literal of the value: an object, a wrapped value, or a value of the framework. -/
def fromMember (field : ConversionTexts) : Words :=
  if field.object then
    [.code "\t\t", .given field.pascal, .code ": ", .read (field.camel ++ "Field"), .code ",\n"]
  else if field.wrapper.isEmpty then
    [.code "\t\t", .given field.pascal, .code ": types.", .given field.fromFunction,
      .code "(apiObject.", .given field.pascal, .code "),\n"]
  else
    [.code "\t\t", .given field.pascal, .code ": ", .given field.wrapper, .code "\x7b\n\t\t\t",
      .given field.base, .code "Value: types.", .given field.fromFunction, .code "(apiObject.",
      .given field.pascal, .code "),\n\t\t\x7d,\n"]

/-- The value that is made. -/
def fromResult (adapter : AdapterTexts) : List Statement := [
  .blank,
  .run ([.code "return ", .given adapter.name, .code "Value\x7b\n"] ++
    (adapter.fields.flatMap fromMember ++
      [.code "\t\tstate: attr.ValueStateKnown,\n\t\x7d, ", .read "diags"]))]

/-- Converts the external type to a value. -/
def fromExternal (adapter : AdapterTexts) : GeneratedFunction where
  header := s!"func (v {adapter.name}Value) From{adapter.suffix}(" ++
    s!"ctx context.Context, apiObject {adapter.externalType}) ({adapter.name}Value, " ++
    "diag.Diagnostics) \x7b\n"
  body :=
    [.variable "diags" [.code "diag.Diagnostics"]] ++
    (fromNothing adapter ++
      (adapter.fields.flatMap (fromObject adapter.name) ++ fromResult adapter))

/-- The functions of adapters. -/
def all (adapter : AdapterTexts) : List GeneratedFunction := [toExternal adapter, fromExternal adapter]

/-- The groups of a field are printed as its sections. -/
theorem texts_field (zero name : String) (field : ConversionTexts) :
    texts 1 (toObject zero field) = AdapterText.toObject zero field ∧
      Words.text (toMember field) = AdapterText.toMember field ∧
      texts 1 (fromObject name field) = AdapterText.fromObject name field ∧
      Words.text (fromMember field) = AdapterText.fromMember field := by
  simp only [← String.toList_inj]
  simp [toObject, toMember, fromObject, fromMember, AdapterText.toObject, AdapterText.toMember,
    AdapterText.fromObject, AdapterText.fromMember, apply_ite (texts 1), apply_ite Words.text,
    apply_ite String.toList, Template.toString_string, -String.reduceToList, -String.reduceAppend]
  simp -index only [String.toList_ofList, List.cons_append, List.nil_append, and_self]

set_option maxRecDepth 4000 in
/-- The functions are printed as the sections of the adapters. -/
theorem map_text_all (adapter : AdapterTexts) :
    (all adapter).map GeneratedFunction.text =
      [AdapterText.toExternal adapter, AdapterText.fromExternal adapter] := by
  apply List.map_injective_iff.mpr fun _ _ => String.toList_injective
  simp [all, toExternal, toResult, fromExternal, fromNothing, fromResult, AdapterText.toExternal,
    AdapterText.fromNothing, AdapterText.fromExternal, texts_append, texts_flatMap,
    Words.text_flatMap, texts_field adapter.zero adapter.name, apply_ite (texts 1),
    apply_ite String.toList, Template.toString_string, -String.reduceToList, -String.reduceAppend]
  simp -index only [String.toList_ofList, List.cons_append, List.nil_append, true_and]

theorem print_eq_functions (adapter : AdapterTexts) :
    AdapterText.print adapter = String.join ((all adapter).map GeneratedFunction.text) := by
  rw [map_text_all, AdapterText.print, String.join_cons, String.join_cons, String.join_nil,
    String.append_empty]

/-- No declaration is hidden in the fixed texts of a field's groups. -/
theorem hidesNothing_field (zero name : String) (field : ConversionTexts) :
    hidesNothing (toObject zero field) = true ∧ Words.hidesNothing (toMember field) = true ∧
      hidesNothing (fromObject name field) = true ∧ Words.hidesNothing (fromMember field) = true := by
  simp only [toObject, toMember, fromObject, fromMember, apply_ite hidesNothing,
    apply_ite Words.hidesNothing]
  simp only [hidesNothing, Words.hidesNothing, allCodes, codes, Words.codes_cons, Words.codes_nil,
    Word.codes, List.all_append, List.all_cons, List.all_nil]
  simp -index only [declaresNothing, String.toList_ofList]
  -- the fixed texts are closed, and the conditions are tried both ways
  generalize field.object = object
  generalize field.wrapper.isEmpty = plain
  revert object plain
  decide

/-- No declaration is hidden in the fixed texts of the functions. -/
theorem hidesNothing_all (adapter : AdapterTexts) :
    ((all adapter).all fun f => hidesNothing f.body) = true := by
  have hfields := hidesNothing_field adapter.zero adapter.name
  simp only [forall_and] at hfields
  obtain ⟨htoObject, htoMember, hfromObject, hfromMember⟩ := hfields
  have htoObjects := hidesNothing_flatMap htoObject adapter.fields
  have htoMembers := Words.hidesNothing_flatMap htoMember adapter.fields
  have hfromObjects := hidesNothing_flatMap hfromObject adapter.fields
  have hfromMembers := Words.hidesNothing_flatMap hfromMember adapter.fields
  rw [hidesNothing] at htoObjects hfromObjects
  rw [Words.hidesNothing] at htoMembers hfromMembers
  simp only [all, toExternal, toResult, fromExternal, fromNothing, fromResult, hidesNothing,
    List.all_cons, List.all_nil, allCodes_append, apply_ite allCodes,
    apply_ite (List.all · declaresNothing), allCodes, codes, Words.codes_append, Words.codes_cons,
    Words.codes_nil, Word.codes, List.all_append, htoObjects, htoMembers, hfromObjects, hfromMembers]
  simp -index only [declaresNothing, String.toList_ofList]
  generalize adapter.pointer = pointer
  revert pointer
  decide

/-! ### Variables of adapters -/

/-- The result of an object's conversion is read where the external value is made. -/
theorem unread_toObject (zero : String) {field : ConversionTexts} {later : List String}
    (h : Words.reads (toMember field) ⊆ later) : unread later (toObject zero field) = [] := by
  rw [toMember] at h
  rw [toObject]
  split at h
  case isTrue hobject =>
    have hfield : field.camel ++ "Field" ∈ later := h (by simp)
    simp [hobject, hfield]
  case isFalse hobject => rw [if_neg hobject, unread]

theorem unread_toExternal (adapter : AdapterTexts) : (toExternal adapter).unread = [] := by
  have hobjects : unread ((toResult adapter).flatMap reads ++ [])
      (adapter.fields.flatMap (toObject adapter.zero)) = [] := by
    refine unread_flatMap_of_members (fun _ _ => unread_toObject _) fun name hname => ?_
    simp [toResult, hname]
  rw [GeneratedFunction.unread, toExternal, unread_append, unread_append, hobjects]
  simp [toResult]

/-- The result of an object's conversion is read where the value is made. -/
theorem unread_fromObject (name : String) {field : ConversionTexts} {later : List String}
    (h : Words.reads (fromMember field) ⊆ later) : unread later (fromObject name field) = [] := by
  rw [fromMember] at h
  rw [fromObject]
  split at h
  case isTrue hobject =>
    have hfield : field.camel ++ "Field" ∈ later := h (by simp)
    simp [hobject, hfield]
  case isFalse hobject => rw [if_neg hobject, unread]

theorem unread_fromExternal (adapter : AdapterTexts) : (fromExternal adapter).unread = [] := by
  have hobjects : unread ((fromResult adapter).flatMap reads ++ [])
      (adapter.fields.flatMap (fromObject adapter.name)) = [] := by
    refine unread_flatMap_of_members (fun _ _ => unread_fromObject _) fun name hname => ?_
    simp [fromResult, hname]
  have hnothing (later : List String) : unread later (fromNothing adapter) = [] := by
    rw [fromNothing]
    split
    · rfl
    · rfl
  rw [GeneratedFunction.unread, fromExternal, unread_append, unread_append, unread_append, hobjects,
    hnothing]
  simp [fromResult]

/-- Both functions read all their variables. -/
theorem unread_eq_nil {adapter : AdapterTexts} {f : GeneratedFunction} (h : f ∈ all adapter) :
    f.unread = [] := by
  simp only [all, List.mem_cons, List.not_mem_nil, or_false] at h
  rcases h with rfl | rfl
  · exact unread_toExternal adapter
  · exact unread_fromExternal adapter

end AdapterFunction

/-! ### Functions of pairs -/

/-- The function that makes a value of an object's own type from an object. -/
def fromObjectFunction (owner : String × NestedObject Node) : GeneratedFunction :=
  TypeFunction.valueFromObject (Name.pascal owner.1)
    (owner.2.fieldDescriptors.map FieldDescriptor.texts)

/-- The functions that are generated for an object: those of its type, and those of its values. -/
def typeFunctions (owner : String × NestedObject Node) : List GeneratedFunction :=
  TypeFunction.all (Name.pascal owner.1) (owner.2.fieldDescriptors.map FieldDescriptor.texts)

def valueFunctions (owner : String × NestedObject Node) : List GeneratedFunction :=
  ValueFunction.all (Name.pascal owner.1) (owner.2.fieldDescriptors.map FieldDescriptor.texts)

theorem NestedObject.isEmpty_fieldDescriptors (object : NestedObject Node) :
    (object.fieldDescriptors.map FieldDescriptor.texts).isEmpty = true ↔ object.childNames = [] := by
  have hnames : object.fieldDescriptors.map (·.name) = [] ↔ object.childNames = [] := by
    simp only [List.eq_nil_iff_forall_not_mem, object.mem_names_fieldDescriptors]
  rw [List.isEmpty_iff, List.map_eq_nil_iff, ← hnames, List.map_eq_nil_iff]

/-- The text of an object's pair, function by function: besides these it has declarations of two types,
and says what the types implement.  No function has a declaration in its fixed texts, and a variable that
is not read later is that of an object's attributes where there are no fields. -/
structure PairLocals (owner : String × NestedObject Node) : Prop where
  typePair_eq : owner.2.typePair owner.1 = .ok (pairText owner)
  text_eq : pairText owner =
    TypeText.assertion (Name.pascal owner.1) ++ TypeText.declaration (Name.pascal owner.1) ++
      String.join ((typeFunctions owner).map GeneratedFunction.text) ++
      (ValueText.assertion (Name.pascal owner.1) ++ "\n" ++ valueStruct owner ++
        String.join ((valueFunctions owner).map GeneratedFunction.text))
  hidesNothing : ∀ f ∈ typeFunctions owner ++ valueFunctions owner,
    Statement.hidesNothing f.body = true
  mem_unread_iff : ∀ f ∈ typeFunctions owner ++ valueFunctions owner, ∀ name,
    name ∈ f.unread ↔
      name = "attributes" ∧ f = fromObjectFunction owner ∧ owner.2.childNames = []

theorem mem_unread_fromObjectFunction (owner : String × NestedObject Node) (name : String) :
    name ∈ (fromObjectFunction owner).unread ↔
      name = "attributes" ∧ owner.2.childNames = [] := by
  rw [fromObjectFunction, TypeFunction.unread_valueFromObject, ← NestedObject.isEmpty_fieldDescriptors]
  by_cases hempty : (owner.2.fieldDescriptors.map FieldDescriptor.texts).isEmpty = true
  · simp [hempty]
  · simp [hempty]

theorem pairLocals (owner : String × NestedObject Node) : PairLocals owner where
  typePair_eq := owner.2.typePair_eq_print owner.1
  text_eq := by
    rw [pairText, TypeFunction.print_eq_functions, ValueFunction.print_eq_functions,
      ValueText.declaration_eq_struct]
    simp only [typeFunctions, valueFunctions, valueStruct, String.append_assoc]
  hidesNothing := by
    intro f hf
    rcases List.mem_append.mp hf with htype | hvalue
    · exact List.all_eq_true.mp (TypeFunction.hidesNothing_all _ _) f htype
    · exact List.all_eq_true.mp (ValueFunction.hidesNothing_all _ _) f hvalue
  mem_unread_iff := by
    intro f hf name
    have hcases : f = fromObjectFunction owner ∨ f.unread = [] := by
      rcases List.mem_append.mp hf with htype | hvalue
      · exact TypeFunction.eq_or_unread_eq_nil htype
      · exact .inr (ValueFunction.unread_eq_nil hvalue)
    have hobject := mem_unread_fromObjectFunction owner name
    by_cases heq : f = fromObjectFunction owner
    · rw [heq, hobject]
      simp only [true_and]
    · simp [hcases.resolve_left heq, heq]

/-! ### The theorem -/

/-- The adapters of a node are two functions for each bound object, one after the other. -/
theorem Node.exists_functions {name text : String} {node : Node} (h : node.adapters name = .ok text) :
    ∃ adapters : List AdapterTexts,
      text = String.join ((adapters.flatMap AdapterFunction.all).map GeneratedFunction.text) := by
  by_cases hbound : node.isBound = true
  · obtain ⟨rendered, rfl, -⟩ := Node.exists_rendered h hbound
    refine ⟨rendered.map (·.2.texts), ?_⟩
    rw [List.flatMap_map, List.map_flatMap, join_flatMap]
    simp only [AdapterFunction.print_eq_functions]
  · rw [Node.adapters_of_unbound (Bool.not_eq_true _ ▸ hbound)] at h
    exact ⟨[], (Except.ok.inj h).symm⟩

/-- **Local variables.**  In the pair of every object, whatever children it has, and in all adapters that
are generated, each local variable of a function is read later in its scope, but for one: where an object
has no children, its attributes are not read in the function that makes a value from it. -/
theorem locals_read_later (owner : String × NestedObject Node) (node : Node) (name : String) :
    PairLocals owner ∧ ∀ text, node.adapters name = .ok text →
      ∃ adapters : List AdapterTexts,
        text = String.join ((adapters.flatMap AdapterFunction.all).map GeneratedFunction.text) ∧
        ∀ f ∈ adapters.flatMap AdapterFunction.all,
          hidesNothing f.body = true ∧ f.unread = [] := by
  refine ⟨pairLocals owner, fun text h => ?_⟩
  obtain ⟨adapters, htext⟩ := Node.exists_functions h
  refine ⟨adapters, htext, fun f hf => ?_⟩
  obtain ⟨adapter, -, hadapter⟩ := List.mem_flatMap.mp hf
  exact ⟨List.all_eq_true.mp (AdapterFunction.hidesNothing_all adapter) f hadapter,
    AdapterFunction.unread_eq_nil hadapter⟩

/-- An object without children, and the chain of bound objects, which has adapters. -/
theorem locals_read_later_boundChain :
    (∃ f ∈ typeFunctions ("rule", {}), "attributes" ∈ f.unread) ∧
    ∃ text, boundChain.adapters "rule" = .ok text ∧ ∃ adapters : List AdapterTexts,
      text = String.join ((adapters.flatMap AdapterFunction.all).map GeneratedFunction.text) ∧
      ∀ f ∈ adapters.flatMap AdapterFunction.all, hidesNothing f.body = true ∧ f.unread = [] := by
  obtain ⟨text, htext⟩ :=
    (Node.exists_adapters_iff boundChain_adaptable.isBound).mpr boundChain_adaptable
  obtain ⟨hpair, hadapters⟩ := locals_read_later ("rule", {}) boundChain "rule"
  have hfunction : fromObjectFunction ("rule", {}) ∈ typeFunctions ("rule", {}) :=
    .tail _ (.tail _ (.head _))
  refine ⟨⟨_, hfunction, ?_⟩, text, htext, hadapters text htext⟩
  exact (hpair.mem_unread_iff _ (List.mem_append_left _ hfunction) _).mpr ⟨rfl, rfl, rfl⟩

/-- A resource with an object that has no attributes. -/
def emptyObjectResource : Resource :=
  { name := "firewall"
    schema := some {
      attributes := [.mk "rule" (.single { mode := .optional } none [])] } }

/-- The resource is built, and in the pair of its object the object's attributes are kept in a variable
that the rest of the function does not name. -/
theorem attributes_left_unread :
    ∃ tree, emptyObjectResource.build = .ok tree ∧ ∃ owner ∈ tree.owners,
      owner.2.typePair owner.1 = .ok (pairText owner) ∧
      ∃ before after : String, Occurs (before ++ "\tattributes := in.Attributes()\n" ++ after)
          (pairText owner) ∧
        before = "\nfunc (t RuleType) ValueFromObject(ctx context.Context, in basetypes.ObjectValue) " ++
          "(basetypes.ObjectValuable, diag.Diagnostics) \x7b\n\tvar diags diag.Diagnostics\n\n" ∧
        after = "\n\tif diags.HasError() \x7b\n\t\treturn nil, diags\n\t\x7d\n\n" ++
          "\treturn RuleValue\x7b\n\t\tstate: attr.ValueStateKnown,\n\t\x7d, diags\n\x7d\n" ∧
        holds "attributes".toList after.toList = false := by
  have hobject : NestedObject.build "firewall"
      [.mk "rule" (.single { mode := .optional } none [])] [] = .ok _ :=
    (NestedObject.build_eq _ _ _).trans rfl
  obtain ⟨tree, hbuild, owner, howner, hname, hfields⟩ : ∃ tree,
      emptyObjectResource.build = .ok tree ∧ ∃ owner ∈ tree.owners,
        Name.pascal owner.1 = "Rule" ∧ owner.2.fieldDescriptors.map FieldDescriptor.texts = [] := by
    simp only [emptyObjectResource, Resource.build, hobject]
    exact ⟨_, rfl, _, .head _, by decide +kernel, rfl⟩
  refine ⟨tree, hbuild, owner, howner, owner.2.typePair_eq_print owner.1, _, _, ?_, rfl, rfl, ?_⟩
  · have hfunction : (TypeFunction.valueFromObject "Rule" []).text ∈
        (typeFunctions owner).map GeneratedFunction.text := by
      rw [typeFunctions, hname, hfields]
      exact List.mem_map_of_mem (.tail _ (.tail _ (.head _)))
    rw [(pairLocals owner).text_eq]
    refine ((Occurs.trans ⟨"", "", ?_⟩ (occurs_join hfunction)).append_left _).append_right _
    decide +kernel
  · decide +kernel

end ProviderCode
