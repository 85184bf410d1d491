import ProviderCode.Proofs.AdapterCalls
import ProviderCode.Proofs.FieldNames
import ProviderCode.Proofs.UsedImports

/-!
# Fields of the structs

The model of a resource and the values of each object are structs with a field for each child, named
in Pascal case.  Construction tells siblings apart by their names as they are, and it reserves none.

Main statements:

* `struct_fields_of_build`: each child has one field, and the fields of a struct have different names
  exactly if no two siblings are one in Pascal case, which no two names in snake case are.
* `value_fields_and_methods`: a field of a value has the name of one of the value's own methods exactly
  if the child's name is that method's in Pascal case, which for a name in snake case are eight names.
-/

namespace ProviderCode

theorem Occurs.refl (text : String) : Occurs text text := ⟨"", "", by simp⟩

/-! ### Structs -/

/-- A struct: a line for each field, with its name and the rest, and then a last part. -/
def structText (name : String) (fields : List (String × String)) (last : String) : String :=
  s!"type {name} struct \x7b\n" ++ eachField (fun field => s!"\t{field.1} {field.2}\n") fields ++
    last ++ "\x7d\n"

/-- The tag of a field. -/
def fieldTag (name : String) : String := " `tfsdk:\"" ++ name ++ "\"`"

/-- A field of the model: its name and the rest of its line. -/
def ModelField.line (field : ModelField) : String × String :=
  (field.name, field.valueType.text ++ fieldTag field.tag)

/-- A field of a value: its name and the rest of its line. -/
def FieldTexts.line (field : FieldTexts) : String × String :=
  (field.pascal, field.valueType ++ fieldTag field.name)

theorem eachField_map {α β : Type} (group : β → String) (f : α → β) (as : List α) :
    eachField group (as.map f) = eachField (fun a => group (f a)) as := by
  rw [eachField, List.map_map]
  rfl

theorem ModelField.text_source (field : ModelField) :
    Source.text (Source.enclose [.fixed "\t"] field.source [.fixed "\n"]) =
      s!"\t{field.line.1} {field.line.2}\n" := by
  have hopening : fieldTag field.tag = " `tfsdk:\"" ++ (field.tag ++ "\"`") := by
    rw [fieldTag, String.append_assoc]
  simp only [ModelField.source, ModelField.line, hopening, Source.text_enclose, Source.text_cons,
    Source.text_nil, Chunk.text, Template.toString_string, String.append_empty, String.append_assoc]

/-- The model is a struct with the fields of the model. -/
theorem ResourceTree.model_eq_struct (tree : ResourceTree) :
    tree.model = structText (Name.pascal tree.name ++ "Model") (tree.modelFields.map (·.line)) "" := by
  have hlines : (fun field : ModelField =>
      Source.text (Source.enclose [.fixed "\t"] field.source [.fixed "\n"])) =
        fun field => s!"\t{field.line.1} {field.line.2}\n" :=
    funext ModelField.text_source
  have hmodel : "Model struct \x7b\n" = "Model" ++ " struct \x7b\n" := rfl
  rw [model, modelSource, Source.text_enclose,
    text_flatMap_eq Source.text_nil Source.text_append, hlines, structText, eachField_map]
  simp only [Source.text_cons, Source.text_nil, Chunk.text, hmodel, Template.toString_string,
    String.append_empty, String.append_assoc]

/-- The values are a struct with the fields of the object, and with a state. -/
theorem ValueText.declaration_eq_struct (name : String) (fields : List FieldTexts) :
    ValueText.declaration name fields = "\n" ++
      structText (name ++ "Value") (fields.map (·.line)) "\tstate attr.ValueState\n" := by
  have hline : ∀ field : FieldTexts,
      ValueText.structField field = s!"\t{field.line.1} {field.line.2}\n" := by
    intro field
    have htag : " `tfsdk:\"" ++ (field.name ++ "\"`\n") = fieldTag field.name ++ "\n" := by
      simp only [fieldTag, String.append_assoc]
      rfl
    simp only [ValueText.structField, FieldTexts.line, Template.toString_string, String.append_assoc,
      ← htag]
  have hvalue : "Value struct \x7b\n" = "Value" ++ " struct \x7b\n" := rfl
  rw [ValueText.declaration, structText, eachField_map, funext hline]
  simp only [String.join_cons, String.join_nil, hvalue, Template.toString_string,
    String.append_empty, String.append_assoc]

/-! ### Methods of the values -/

/-- A text of lines opens with what its first line opens with. -/
theorem opens_method {first opening name closing line : String} (method parameters : String)
    {rest : List String} (hopening : first = "\n" ++ opening)
    (hline : line = closing ++ method ++ "(" ++ parameters) :
    ∃ body, String.join ("\n" :: (opening ++ name ++ line) :: rest) =
      first ++ name ++ closing ++ method ++ "(" ++ body := by
  refine ⟨parameters ++ String.join rest, ?_⟩
  simp only [hline, hopening, String.join_cons, String.append_assoc]

namespace ValueText

variable {name : String} {fields : List FieldTexts}

/-- The methods that the values of an object have of their own, each with its text. -/
def methods (name : String) (fields : List FieldTexts) : List (String × String) := [
  ("ToTerraformValue", toTerraformValue name fields),
  ("IsNull", isNull name),
  ("IsUnknown", isUnknown name),
  ("String", string name),
  ("ToObjectValue", toObjectValue name fields),
  ("Equal", equal name fields),
  ("Type", type name),
  ("AttributeTypes", attributeTypes name fields)]

theorem print_eq_methods (name : String) (fields : List FieldTexts) :
    print name fields = assertion name ++ declaration name fields ++
      (nullValue name ++ unknownValue name) ++ String.join ((methods name fields).map (·.2)) := by
  simp only [print, methods, List.map_cons, List.map_nil, String.join_cons, String.join_nil,
    String.append_empty, String.append_assoc]

/-- The text of a method declares it for the values. -/
theorem opens_of_mem_methods {m : String × String} (h : m ∈ methods name fields) :
    ∃ body, m.2 = s!"\nfunc (v {name}Value) {m.1}(" ++ body := by
  simp only [methods, List.mem_cons, List.not_mem_nil, or_false] at h
  rcases h with rfl | rfl | rfl | rfl | rfl | rfl | rfl | rfl
  · exact opens_method _ "ctx context.Context) (tftypes.Value, error) \x7b\n" rfl rfl
  · exact opens_method _ ") bool \x7b\n" rfl rfl
  · exact opens_method _ ") bool \x7b\n" rfl rfl
  · exact opens_method _ ") string \x7b\n" rfl rfl
  · exact opens_method _ "ctx context.Context) (basetypes.ObjectValue, diag.Diagnostics) \x7b\n" rfl rfl
  · exact opens_method _ "o attr.Value) bool \x7b\n" rfl rfl
  · exact opens_method _ "ctx context.Context) attr.Type \x7b\n" rfl rfl
  · exact opens_method _ "ctx context.Context) map[string]attr.Type \x7b\n" rfl rfl

end ValueText

/-- The struct of an object's values, with the fields that the object's children are. -/
def valueStruct (owner : String × NestedObject Node) : String :=
  structText (Name.pascal owner.1 ++ "Value")
    ((owner.2.fieldDescriptors.map FieldDescriptor.texts).map (·.line)) "\tstate attr.ValueState\n"

/-- The methods of an object's values. -/
def valueMethods (owner : String × NestedObject Node) : List (String × String) :=
  ValueText.methods (Name.pascal owner.1) (owner.2.fieldDescriptors.map FieldDescriptor.texts)

/-- The text of a pair: the type, the struct of the values and the functions that make values without
fields, and the methods of the values. -/
theorem pairText_eq (owner : String × NestedObject Node) :
    pairText owner =
      TypeText.print (Name.pascal owner.1) (owner.2.fieldDescriptors.map FieldDescriptor.texts) ++
        ValueText.assertion (Name.pascal owner.1) ++ "\n" ++ valueStruct owner ++
        (ValueText.nullValue (Name.pascal owner.1) ++ ValueText.unknownValue (Name.pascal owner.1)) ++
        String.join ((valueMethods owner).map (·.2)) := by
  rw [pairText, ValueText.print_eq_methods, ValueText.declaration_eq_struct]
  simp only [valueStruct, valueMethods, String.append_assoc]

theorem occurs_valueStruct (owner : String × NestedObject Node) :
    Occurs (valueStruct owner) (pairText owner) := by
  rw [pairText_eq]
  exact ((Occurs.refl _).append_left _ |>.append_right _).append_right _

/-! ### Fields and children -/

/-- The names of the attributes and blocks of an object. -/
def NestedObject.childNames (object : NestedObject Node) : List String :=
  Children.keys object.attributes ++ Children.keys object.blocks

/-- The names of the nodes at the top of a tree. -/
def ResourceTree.childNames (tree : ResourceTree) : List String :=
  Children.keys tree.attributes ++ Children.keys tree.blocks

/-- The fields of a struct are one for each of the children, whose names all differ.  The fields have
different names exactly if the children's names stay different in Pascal case; if these are plain, their
initials tell, and if they are in snake case, they stay different. -/
structure FieldsOf (children fields : List String) : Prop where
  children_nodup : children.Nodup
  named : fields.Perm (children.map Name.pascal)
  nodup_iff : fields.Nodup ↔ children.Pairwise fun a b => Name.pascal a ≠ Name.pascal b
  nodup_iff_of_plain : (∀ child ∈ children, Name.isPlain child.toList = true) →
    (fields.Nodup ↔ children.Pairwise fun a b =>
      Name.initials true a.toList ≠ Name.initials true b.toList)
  nodup_of_snake : (∀ child ∈ children, Name.isSnake true child.toList = true) → fields.Nodup

theorem FieldsOf.of_perm {children fields : List String} (hnodup : children.Nodup)
    (hperm : fields.Perm (children.map Name.pascal)) : FieldsOf children fields := by
  have hiff : fields.Nodup ↔ children.Pairwise fun a b => Name.pascal a ≠ Name.pascal b := by
    rw [hperm.nodup_iff, List.Nodup, List.pairwise_map]
  refine ⟨hnodup, hperm, hiff, ?plain, ?snake⟩
  case plain =>
    intro hplain
    rw [hiff]
    refine List.Pairwise.iff_of_mem fun ha hb => not_congr ?_
    exact Name.pascal_eq_iff (hplain _ ha) (hplain _ hb)
  case snake =>
    intro hsnake
    rw [hiff]
    refine hnodup.imp_of_mem fun ha hb hne => mt ?_ hne
    exact Name.eq_of_pascal_eq (hsnake _ ha) (hsnake _ hb)

/-- The fields of an object have the names of its children. -/
theorem NestedObject.names_fieldDescriptors (object : NestedObject Node) :
    object.fieldDescriptors.map (·.name) = Children.keys (Children.merge
      (object.blocks.map fun child => (child.1, child.2.fieldDescriptor child.1))
      (object.attributes.map fun child => (child.1, child.2.fieldDescriptor child.1))) := by
  rw [fieldDescriptors, Children.values, Children.keys, List.map_map]
  refine List.map_congr_left fun entry hentry => ?_
  -- a descriptor is listed under its own name
  have hown : ∀ children : Children Node,
      entry ∈ children.map (fun child => (child.1, child.2.fieldDescriptor child.1)) →
        entry.2.name = entry.1 := by
    intro children hmem
    obtain ⟨child, -, rfl⟩ := List.mem_map.mp hmem
    rfl
  rcases Children.mem_merge hentry with hblock | hattribute
  · exact hown _ hblock
  · exact hown _ hattribute

theorem keys_descriptors (children : Children Node) :
    Children.keys (children.map fun child => (child.1, child.2.fieldDescriptor child.1)) =
      children.keys := by
  rw [Children.keys, List.map_map]
  rfl

/-- A name is that of a field exactly if it is that of a child. -/
theorem NestedObject.mem_names_fieldDescriptors {object : NestedObject Node} {name : String} :
    name ∈ object.fieldDescriptors.map (·.name) ↔ name ∈ object.childNames := by
  rw [names_fieldDescriptors, Children.mem_keys_merge, keys_descriptors, keys_descriptors,
    childNames, List.mem_append, or_comm]

/-- Where siblings differ, each child has one field. -/
theorem NestedObject.fieldsOf {object : NestedObject Node}
    (h : SiblingsDiffer object.attributes object.blocks) :
    FieldsOf object.childNames (object.fieldDescriptors.map FieldDescriptor.pascal) := by
  have hkeys : (Children.keys object.blocks ++ Children.keys object.attributes).Nodup :=
    List.nodup_append_comm.mp h
  rw [← keys_descriptors object.blocks, ← keys_descriptors object.attributes] at hkeys
  have hperm : (object.fieldDescriptors.map (·.name)).Perm object.childNames := by
    rw [names_fieldDescriptors]
    refine ((Children.merge_perm hkeys).map Prod.fst).trans ?_
    rw [List.map_append]
    show (Children.keys _ ++ Children.keys _).Perm _
    rw [keys_descriptors, keys_descriptors]
    exact List.perm_append_comm
  refine .of_perm h ?_
  have hpascal := hperm.map Name.pascal
  rwa [List.map_map] at hpascal

/-- Where the nodes at the top differ, each has one field in the model. -/
theorem ResourceTree.fieldsOf {tree : ResourceTree}
    (h : SiblingsDiffer tree.attributes tree.blocks) :
    FieldsOf tree.childNames (tree.modelFields.map ModelField.name) := by
  refine .of_perm h ?_
  have hperm := (Children.merge_perm h).map fun child : String × Node => Name.pascal child.1
  rw [modelFields, List.map_map, childNames, Children.keys, Children.keys, ← List.map_append,
    List.map_map]
  exact hperm

theorem Node.Built.siblingsDiffer {node : Node} (h : node.Built) {object : NestedObject Node}
    (hobject : node.object? = some object) : SiblingsDiffer object.attributes object.blocks := by
  rcases h with ⟨a, ha⟩ | ⟨b, hb⟩
  · cases Attribute.represented ha with
    | intro holds _ => exact (holds.object_reflects object hobject).siblingsDiffer
  · cases Block.represented hb with
    | intro holds _ _ => exact (holds.object_reflects object hobject).siblingsDiffer

/-! ### Structs of trees that are built -/

/-- The struct of an object's values stands in the text of the object's pair, and its fields are one for
each child. -/
structure HasValueStruct (owner : String × NestedObject Node) : Prop where
  typePair_eq : owner.2.typePair owner.1 = .ok (pairText owner)
  occurs : ∃ fields : List (String × String), Occurs
      (structText (Name.pascal owner.1 ++ "Value") fields "\tstate attr.ValueState\n")
      (pairText owner) ∧ FieldsOf owner.2.childNames (fields.map (·.1))

theorem HasValueStruct.of_siblingsDiffer {owner : String × NestedObject Node}
    (h : SiblingsDiffer owner.2.attributes owner.2.blocks) : HasValueStruct owner := by
  refine ⟨owner.2.typePair_eq_print owner.1,
    (owner.2.fieldDescriptors.map FieldDescriptor.texts).map (·.line), ?_, ?_⟩
  · exact occurs_valueStruct owner
  · rw [List.map_map, List.map_map]
    exact NestedObject.fieldsOf h

/-- All objects in the tree of a node that is built have their structs. -/
theorem Node.Built.hasValueStruct {node : Node} (h : node.Built) {name : String}
    {owner : String × NestedObject Node} (howner : owner ∈ typeOwners (node.walk name)) :
    HasValueStruct owner := by
  obtain ⟨inner, hwalk, hobject, -⟩ := mem_typeOwners.mp howner
  have hinner : inner.Built := h.reaches (Node.reaches_iff_mem_walk.mpr ⟨_, hwalk⟩)
  exact .of_siblingsDiffer (hinner.siblingsDiffer hobject)

/-- **Fields of structs.**  In every tree that is built, the model and the values of each object are
structs with one field for each child, named in Pascal case; the names of the children all differ, and
those of the fields differ exactly if the children's names stay different in Pascal case. -/
theorem struct_fields_of_build :
    (∀ (resource : Resource) (tree : ResourceTree), resource.build = .ok tree →
      (∃ fields : List (String × String),
        tree.model = structText (Name.pascal tree.name ++ "Model") fields "" ∧
        FieldsOf tree.childNames (fields.map (·.1))) ∧
      ∀ owner ∈ tree.owners, HasValueStruct owner) ∧
    ∀ (node : Node) (name : String), node.Built →
      ∀ owner ∈ typeOwners (node.walk name), HasValueStruct owner := by
  refine ⟨fun resource tree h => ⟨?model, ?values⟩, fun node name h owner howner =>
    h.hasValueStruct howner⟩
  case model =>
    obtain ⟨schema, -, hrepresents⟩ := Resource.represented h
    refine ⟨tree.modelFields.map ModelField.line, ?_, ?_⟩
    · exact tree.model_eq_struct
    · rw [List.map_map]
      exact ResourceTree.fieldsOf hrepresents.siblingsDiffer.1
  case values =>
    intro owner howner
    rw [ResourceTree.owners, ResourceTree.typeOwners_walkAll] at howner
    obtain ⟨child, hchild, howner⟩ := List.mem_flatMap.mp howner
    exact (Resource.built_of_node h hchild).1.hasValueStruct howner

/-- The names of the block and of the object in it are in snake case, so no field is there twice. -/
theorem struct_fields_of_build_boundResource :
    ∃ tree, boundResource.build = .ok tree ∧
      (∃ fields : List (String × String), tree.model = structText "FirewallModel" fields "" ∧
        (fields.map (·.1)).Nodup) ∧
      ∃ owner ∈ tree.owners, owner.1 = "rule" ∧ ∃ fields : List (String × String),
        Occurs (structText "RuleValue" fields "\tstate attr.ValueState\n") (pairText owner) ∧
        (fields.map (·.1)).Nodup := by
  have hobject : NestedObject.build "firewall" [] [boundBlock] = .ok _ :=
    (NestedObject.build_eq _ _ _).trans rfl
  obtain ⟨tree, hbuild, hname, hnames, owner, howner, hrule, hchildren⟩ :
      ∃ tree, boundResource.build = .ok tree ∧ tree.name = "firewall" ∧ tree.childNames = ["rule"] ∧
        ∃ owner ∈ tree.owners, owner.1 = "rule" ∧ owner.2.childNames = ["inner_rule"] := by
    simp only [boundResource, Resource.build, hobject]
    exact ⟨_, rfl, rfl, rfl, _, .head _, rfl, rfl⟩
  obtain ⟨⟨fields, hmodel, hfields⟩, hvalues⟩ := struct_fields_of_build.1 _ tree hbuild
  obtain ⟨-, valueFields, hvalue, hvalueFields⟩ := hvalues owner howner
  have hfirewall : Name.pascal "firewall" ++ "Model" = "FirewallModel" := by decide +kernel
  have hrulevalue : Name.pascal "rule" ++ "Value" = "RuleValue" := by decide +kernel
  rw [hname, hfirewall] at hmodel
  rw [hrule, hrulevalue] at hvalue
  refine ⟨tree, hbuild, ⟨fields, hmodel, hfields.nodup_of_snake ?_⟩, owner, howner, hrule,
    valueFields, hvalue, hvalueFields.nodup_of_snake ?_⟩
  · intro child hchild
    obtain rfl := List.mem_singleton.mp (hnames ▸ hchild)
    decide
  · intro child hchild
    obtain rfl := List.mem_singleton.mp (hchildren ▸ hchild)
    decide

/-- Two ports whose names differ by a joint before a digit. -/
def portAttributes : List Attribute := [
  .mk "port1" (.leaf (.int64 { mode := .optional })),
  .mk "port_1" (.leaf (.int64 { mode := .optional }))]

/-- An object with the two ports. -/
def portsAttribute : Attribute := .mk "rule" (.single { mode := .optional } none portAttributes)

/-- A resource with the two ports and the object. -/
def portsResource : Resource :=
  { name := "firewall", schema := some { attributes := portsAttribute :: portAttributes } }

/-- The resource is built, and both structs have the same field twice. -/
theorem sibling_fields_collide :
    ∃ tree, portsResource.build = .ok tree ∧
      tree.model = "type FirewallModel struct \x7b\n\tPort1 types.Int64 `tfsdk:\"port1\"`\n" ++
        "\tPort1 types.Int64 `tfsdk:\"port_1\"`\n\tRule types.Object `tfsdk:\"rule\"`\n\x7d\n" ∧
      ∃ owner ∈ tree.owners, Occurs (valueStruct owner) (pairText owner) ∧
        valueStruct owner = "type RuleValue struct \x7b\n" ++
          "\tPort1 basetypes.Int64Value `tfsdk:\"port1\"`\n" ++
          "\tPort1 basetypes.Int64Value `tfsdk:\"port_1\"`\n\tstate attr.ValueState\n\x7d\n" := by
  have hobject : NestedObject.build "firewall" (portsAttribute :: portAttributes) [] = .ok _ :=
    (NestedObject.build_eq _ _ _).trans rfl
  obtain ⟨tree, hbuild, hmodel, owner, howner, hvalue⟩ : ∃ tree, portsResource.build = .ok tree ∧
      tree.model = "type FirewallModel struct \x7b\n\tPort1 types.Int64 `tfsdk:\"port1\"`\n" ++
        "\tPort1 types.Int64 `tfsdk:\"port_1\"`\n\tRule types.Object `tfsdk:\"rule\"`\n\x7d\n" ∧
      ∃ owner ∈ tree.owners, valueStruct owner = "type RuleValue struct \x7b\n" ++
          "\tPort1 basetypes.Int64Value `tfsdk:\"port1\"`\n" ++
          "\tPort1 basetypes.Int64Value `tfsdk:\"port_1\"`\n\tstate attr.ValueState\n\x7d\n" := by
    simp only [portsResource, Resource.build, hobject]
    refine ⟨_, rfl, ?_, _, .head _, ?_⟩
    · decide +kernel
    · decide +kernel
  exact ⟨tree, hbuild, hmodel, owner, howner, occurs_valueStruct owner, hvalue⟩

/-! ### Fields and methods -/

/-- The names in snake case that the values' own methods have in Pascal case. -/
def methodNames : List String := ["to_terraform_value", "is_null", "is_unknown", "string",
  "to_object_value", "equal", "type", "attribute_types"]

theorem pascal_methodNames : methodNames.map Name.pascal = ["ToTerraformValue", "IsNull", "IsUnknown",
    "String", "ToObjectValue", "Equal", "Type", "AttributeTypes"] := by
  decide +kernel

theorem isSnake_of_mem_methodNames {name : String} (h : name ∈ methodNames) :
    Name.isSnake true name.toList = true := by
  have hall : methodNames.all (fun name => Name.isSnake true name.toList) = true := by decide +kernel
  exact List.all_eq_true.mp hall name h

/-- A plain name is a method's in Pascal case exactly if it has the initials of one of the names. -/
theorem mem_methods_iff_of_plain {name : String} (h : Name.isPlain name.toList = true) :
    Name.pascal name ∈ methodNames.map Name.pascal ↔
      ∃ method ∈ methodNames, Name.initials true name.toList = Name.initials true method.toList := by
  rw [List.mem_map]
  refine exists_congr fun method => and_congr_right fun hmethod => ?_
  rw [eq_comm]
  exact Name.pascal_eq_iff h (Name.isPlain_of_isSnake (isSnake_of_mem_methodNames hmethod))

/-- A name in snake case is a method's in Pascal case exactly if it is one of the names. -/
theorem mem_methods_iff_of_snake {name : String} (h : Name.isSnake true name.toList = true) :
    Name.pascal name ∈ methodNames.map Name.pascal ↔ name ∈ methodNames := by
  constructor
  · intro hmem
    obtain ⟨method, hmethod, hpascal⟩ := List.mem_map.mp hmem
    obtain rfl := Name.eq_of_pascal_eq (isSnake_of_mem_methodNames hmethod) h hpascal
    exact hmethod
  · exact fun hmem => List.mem_map_of_mem hmem

/-- The members of an object's values: the fields of their struct, and the methods that follow it in the
text of the pair.  The fields are those of the object's children, and the methods are always the same. -/
structure ValueMembers (owner : String × NestedObject Node) (fields methods : List (String × String)) :
    Prop where
  typePair_eq : owner.2.typePair owner.1 = .ok (pairText owner)
  text_eq : pairText owner =
    TypeText.print (Name.pascal owner.1) (owner.2.fieldDescriptors.map FieldDescriptor.texts) ++
      ValueText.assertion (Name.pascal owner.1) ++ "\n" ++
      structText (Name.pascal owner.1 ++ "Value") fields "\tstate attr.ValueState\n" ++
      (ValueText.nullValue (Name.pascal owner.1) ++ ValueText.unknownValue (Name.pascal owner.1)) ++
      String.join (methods.map (·.2))
  mem_fields_iff : ∀ field, field ∈ fields.map (·.1) ↔
    ∃ child ∈ owner.2.childNames, Name.pascal child = field
  methods_eq : methods.map (·.1) = ["ToTerraformValue", "IsNull", "IsUnknown", "String",
    "ToObjectValue", "Equal", "Type", "AttributeTypes"]
  opens_method : ∀ m ∈ methods, ∃ body,
    m.2 = s!"\nfunc (v {Name.pascal owner.1}Value) {m.1}(" ++ body

theorem valueMembers (owner : String × NestedObject Node) :
    ValueMembers owner ((owner.2.fieldDescriptors.map FieldDescriptor.texts).map (·.line))
      (valueMethods owner) where
  typePair_eq := owner.2.typePair_eq_print owner.1
  text_eq := pairText_eq owner
  mem_fields_iff := by
    intro field
    have hnames : ((owner.2.fieldDescriptors.map FieldDescriptor.texts).map (·.line)).map (·.1) =
        (owner.2.fieldDescriptors.map (·.name)).map Name.pascal := by
      rw [List.map_map, List.map_map, List.map_map]
      rfl
    simp only [hnames, List.mem_map (f := Name.pascal), NestedObject.mem_names_fieldDescriptors]
  methods_eq := rfl
  opens_method := fun _ => ValueText.opens_of_mem_methods

/-- **Fields and methods.**  The values of an object have a field for each child and eight methods of
their own.  The field of a child has the name of one of these methods exactly if the child's name in
Pascal case is one of the eight.  For a plain name this says that it has the initials of one of eight names
in snake case, and for a name in snake case that it is one of them. -/
theorem value_fields_and_methods (owner : String × NestedObject Node) :
    ∃ fields methods : List (String × String), ValueMembers owner fields methods ∧
      ∀ child ∈ owner.2.childNames, ∃ field ∈ fields.map (·.1), field = Name.pascal child ∧
        (field ∈ methods.map (·.1) ↔ field ∈ methodNames.map Name.pascal) ∧
        (Name.isPlain child.toList = true → (field ∈ methods.map (·.1) ↔
          ∃ method ∈ methodNames,
            Name.initials true child.toList = Name.initials true method.toList)) ∧
        (Name.isSnake true child.toList = true →
          (field ∈ methods.map (·.1) ↔ child ∈ methodNames)) := by
  have hmembers := valueMembers owner
  refine ⟨_, _, hmembers, fun child hchild =>
    ⟨Name.pascal child, (hmembers.mem_fields_iff _).mpr ⟨child, hchild, rfl⟩, rfl, ?_⟩⟩
  rw [hmembers.methods_eq, ← pascal_methodNames]
  exact ⟨Iff.rfl, mem_methods_iff_of_plain, mem_methods_iff_of_snake⟩

/-- An object with an attribute that is called as a method is. -/
def typedAttribute : Attribute :=
  .mk "rule" (.single { mode := .optional } none [.mk "type" (.leaf (.string { mode := .optional }))])

/-- A resource with the object. -/
def typedResource : Resource :=
  { name := "firewall", schema := some { attributes := [typedAttribute] } }

/-- The resource is built, and its values have a field and a method of one name. -/
theorem field_is_method :
    ∃ tree, typedResource.build = .ok tree ∧ ∃ owner ∈ tree.owners,
      owner.2.typePair owner.1 = .ok (pairText owner) ∧
      Occurs ("type RuleValue struct \x7b\n\tType basetypes.StringValue `tfsdk:\"type\"`\n" ++
        "\tstate attr.ValueState\n\x7d\n") (pairText owner) ∧
      Occurs "\nfunc (v RuleValue) Type(" (pairText owner) := by
  have hobject : NestedObject.build "firewall" [typedAttribute] [] = .ok _ :=
    (NestedObject.build_eq _ _ _).trans rfl
  obtain ⟨tree, hbuild, owner, howner, hname, hvalue⟩ : ∃ tree, typedResource.build = .ok tree ∧
      ∃ owner ∈ tree.owners, Name.pascal owner.1 = "Rule" ∧ valueStruct owner =
        "type RuleValue struct \x7b\n\tType basetypes.StringValue `tfsdk:\"type\"`\n" ++
          "\tstate attr.ValueState\n\x7d\n" := by
    simp only [typedResource, Resource.build, hobject]
    refine ⟨_, rfl, _, .head _, ?_, ?_⟩
    · decide +kernel
    · decide +kernel
  refine ⟨tree, hbuild, owner, howner, owner.2.typePair_eq_print owner.1,
    hvalue ▸ occurs_valueStruct owner, ?_⟩
  -- the method is among those at the end of the pair
  have htype : ("Type", ValueText.type (Name.pascal owner.1)) ∈ valueMethods owner := by
    simp [valueMethods, ValueText.methods]
  obtain ⟨body, hbody⟩ := ValueText.opens_of_mem_methods htype
  rw [hname] at hbody
  rw [pairText_eq]
  refine (Occurs.trans ⟨"", body, ?_⟩ (occurs_join (List.mem_map_of_mem htype))).append_left _
  rw [hname, hbody, String.empty_append]
  rfl

end ProviderCode
