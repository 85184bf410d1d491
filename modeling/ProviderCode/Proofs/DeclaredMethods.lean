import ProviderCode.Proofs.StructFields

/-!
# Methods that a file declares

A file has the methods of its pairs, and those that adapters add to the values of bound objects.  A method
is told apart by the type that it belongs to and by its name.

Main statement: the sections of a file are the declarations of its objects, one after the other.  The
types are declared once exactly if the objects' names stay different in Pascal case, and then no two
adapters define one method.  What an adapter adds can still be one of the value's own methods: all methods
are defined once exactly if, besides, no external type gives its conversion the name `ToTerraformValue` or
`ToObjectValue`.
-/

namespace ProviderCode

open List (Forall₂)

/-! ### Methods -/

/-- A method of a generated type: the type that it belongs to, its name, and its text. -/
structure Method where
  type : String
  name : String
  text : String

namespace Method

/-- What tells methods apart: a type cannot have two methods of one name. -/
def key (m : Method) : String × String := (m.type, m.name)

/-- The text opens with a receiver of the type and with the name. -/
def Opens (m : Method) : Prop :=
  ∃ self ∈ ["t", "v"], ∃ body, m.text = s!"\nfunc ({self} {m.type}) {m.name}(" ++ body

/-- The parts of the opening, joined as they are in the templates. -/
theorem Opens.of_eq (self : String) {opening name kind closing method text body : String}
    (hself : self ∈ ["t", "v"]) (hopening : opening = "\nfunc (" ++ self ++ " ")
    (hclosing : closing = kind ++ ") ")
    (htext : text = opening ++ name ++ closing ++ method ++ "(" ++ body) :
    Opens ⟨name ++ kind, method, text⟩ := by
  refine ⟨self, hself, body, ?_⟩
  simp only [htext, hopening, hclosing, Template.toString_string, String.append_assoc]

end Method

/-! ### Methods of pairs -/

namespace TypeText

variable {name : String} {fields : List FieldTexts}

/-- The methods of an object's type, each with its text. -/
def methods (name : String) (fields : List FieldTexts) : List (String × String) := [
  ("Equal", equal name),
  ("String", string name),
  ("ValueFromObject", valueFromObject name fields),
  ("ValueFromTerraform", valueFromTerraform name),
  ("ValueType", valueType name)]

theorem print_eq_methods (name : String) (fields : List FieldTexts) :
    print name fields = assertion name ++ declaration name ++
      String.join ((methods name fields).map (·.2)) := by
  simp only [print, methods, List.map_cons, List.map_nil, String.join_cons, String.join_nil,
    String.append_empty, String.append_assoc]

theorem declaration_eq_struct (name : String) :
    declaration name = "\n" ++ structText (name ++ "Type") [] "\tbasetypes.ObjectType\n" := by
  have htype : "Type struct \x7b\n" = "Type" ++ " struct \x7b\n" := rfl
  simp only [declaration, structText, eachField, htype, List.map_nil, String.join_cons,
    String.join_nil, Template.toString_string, String.append_empty, String.append_assoc]

/-- The text of a method declares it for the type. -/
theorem opens_of_mem_methods {m : String × String} (h : m ∈ methods name fields) :
    ∃ body, m.2 = s!"\nfunc (t {name}Type) {m.1}(" ++ body := by
  simp only [methods, List.mem_cons, List.not_mem_nil, or_false] at h
  rcases h with rfl | rfl | rfl | rfl | rfl
  · exact opens_method _ "o attr.Type) bool \x7b\n" rfl rfl
  · exact opens_method _ ") string \x7b\n" rfl rfl
  · exact opens_method _ ("ctx context.Context, in basetypes.ObjectValue) " ++
      "(basetypes.ObjectValuable, diag.Diagnostics) \x7b\n") rfl rfl
  · exact opens_method _ "ctx context.Context, in tftypes.Value) (attr.Value, error) \x7b\n" rfl rfl
  · exact opens_method _ "ctx context.Context) attr.Value \x7b\n" rfl rfl

end TypeText

/-- The struct of an object's type. -/
def typeStruct (owner : String × NestedObject Node) : String :=
  structText (Name.pascal owner.1 ++ "Type") [] "\tbasetypes.ObjectType\n"

/-- The methods of an object's type, with the type. -/
def methodsOfType (owner : String × NestedObject Node) : List Method :=
  (TypeText.methods (Name.pascal owner.1) (owner.2.fieldDescriptors.map FieldDescriptor.texts)).map
    fun m => ⟨Name.pascal owner.1 ++ "Type", m.1, m.2⟩

/-- The methods of an object's values, with their type. -/
def methodsOfValues (owner : String × NestedObject Node) : List Method :=
  (valueMethods owner).map fun m => ⟨Name.pascal owner.1 ++ "Value", m.1, m.2⟩

/-- The methods of an object's type and of its values. -/
def pairMethods (owner : String × NestedObject Node) : List Method :=
  methodsOfType owner ++ methodsOfValues owner

/-- Text that declares a struct of a name. -/
def DeclaresStruct (name text : String) : Prop := ∃ body, text = s!"type {name} struct \x7b\n" ++ body

theorem declaresStruct (name : String) (fields : List (String × String)) (last : String) :
    DeclaresStruct name (structText name fields last) :=
  ⟨_, by rw [structText, String.append_assoc, String.append_assoc]⟩

/-- The text of an object's pair, declaration by declaration: the struct of the type and its methods, then
the struct of the values, two functions that make values without fields, and the values' methods. -/
structure PairDeclarations (owner : String × NestedObject Node) : Prop where
  text_eq : pairText owner =
    TypeText.assertion (Name.pascal owner.1) ++ "\n" ++ typeStruct owner ++
      String.join ((methodsOfType owner).map (·.text)) ++
      (ValueText.assertion (Name.pascal owner.1) ++ "\n" ++ valueStruct owner ++
        (ValueText.nullValue (Name.pascal owner.1) ++ ValueText.unknownValue (Name.pascal owner.1)) ++
        String.join ((methodsOfValues owner).map (·.text)))
  types : Forall₂ DeclaresStruct (pairTypes (Name.pascal owner.1)) [typeStruct owner, valueStruct owner]
  opens : ∀ m ∈ pairMethods owner, m.Opens

theorem pairDeclarations (owner : String × NestedObject Node) : PairDeclarations owner where
  text_eq := by
    rw [pairText, TypeText.print_eq_methods, TypeText.declaration_eq_struct,
      ValueText.print_eq_methods, ValueText.declaration_eq_struct]
    simp only [typeStruct, methodsOfType, valueStruct, methodsOfValues, valueMethods, List.map_map,
      Function.comp_def, String.append_assoc]
  types := .cons (declaresStruct _ _ _) (.cons (declaresStruct _ _ _) .nil)
  opens := by
    intro m hm
    rcases List.mem_append.mp hm with hm | hm
    · obtain ⟨method, hmethod, rfl⟩ := List.mem_map.mp hm
      obtain ⟨body, hbody⟩ := TypeText.opens_of_mem_methods hmethod
      exact .of_eq "t" (by simp) rfl rfl hbody
    · obtain ⟨method, hmethod, rfl⟩ := List.mem_map.mp hm
      obtain ⟨body, hbody⟩ := ValueText.opens_of_mem_methods hmethod
      exact .of_eq "v" (by simp) rfl rfl hbody

/-! ### Methods of adapters -/

namespace AdapterText

theorem opens_toExternal (adapter : AdapterTexts) : ∃ body, toExternal adapter =
    "\nfunc (v " ++ adapter.name ++ "Value) " ++ ("To" ++ adapter.suffix) ++ "(" ++ body := by
  have hfirst : "\nfunc (v " = "\n" ++ "func (v " := rfl
  have hname : "Value) To" = "Value) " ++ "To" := rfl
  have hparameters : "(ctx context.Context) (" = "(" ++ "ctx context.Context) (" := rfl
  simp only [toExternal, hfirst, hname, hparameters, String.join_cons, Template.toString_string,
    String.append_assoc]
  exact ⟨_, rfl⟩

theorem opens_fromExternal (adapter : AdapterTexts) : ∃ body, fromExternal adapter =
    "\nfunc (v " ++ adapter.name ++ "Value) " ++ ("From" ++ adapter.suffix) ++ "(" ++ body := by
  have hfirst : "\nfunc (v " = "\n" ++ "func (v " := rfl
  have hname : "Value) From" = "Value) " ++ "From" := rfl
  have hparameters : "(ctx context.Context, apiObject " = "(" ++ "ctx context.Context, apiObject " := rfl
  simp only [fromExternal, hfirst, hname, hparameters, String.join_cons, Template.toString_string,
    String.append_assoc]
  exact ⟨_, rfl⟩

end AdapterText

namespace Adapter

/-- The methods that adapters add to the values of an object. -/
def methods (adapter : Adapter) : List Method := [
  ⟨Name.pascal adapter.name ++ "Value", "To" ++ adapter.external.suffix,
    AdapterText.toExternal adapter.texts⟩,
  ⟨Name.pascal adapter.name ++ "Value", "From" ++ adapter.external.suffix,
    AdapterText.fromExternal adapter.texts⟩]

theorem print_eq_methods (adapter : Adapter) :
    AdapterText.print adapter.texts = String.join (adapter.methods.map (·.text)) := by
  simp only [AdapterText.print, methods, List.map_cons, List.map_nil, String.join_cons,
    String.join_nil, String.append_empty]

theorem opens_of_mem_methods {adapter : Adapter} {m : Method} (h : m ∈ adapter.methods) :
    m.Opens := by
  simp only [methods, List.mem_cons, List.not_mem_nil, or_false] at h
  rcases h with rfl | rfl
  · obtain ⟨body, hbody⟩ := AdapterText.opens_toExternal adapter.texts
    exact .of_eq "v" (by simp) rfl rfl hbody
  · obtain ⟨body, hbody⟩ := AdapterText.opens_fromExternal adapter.texts
    exact .of_eq "v" (by simp) rfl rfl hbody

end Adapter

/-- The adapters of bound nodes belong to owners, at most one to each and in their order. -/
theorem adapters_isOf (nodes : Children Node) :
    ∃ owners : List (String × NestedObject Node), owners.Sublist (typeOwners nodes) ∧
      Forall₂ (fun owner adapter => Adapter.IsOf adapter owner) owners
        ((nodes.filter (·.2.isBound)).filterMap fun c => c.2.adapter? c.1) := by
  induction nodes with
  | nil => exact ⟨[], List.Sublist.refl _, .nil⟩
  | cons child rest ih =>
    obtain ⟨name, node⟩ := child
    obtain ⟨owners, hsub, hall⟩ := ih
    have hsplit : typeOwners ((name, node) :: rest) = typeOwners [(name, node)] ++ typeOwners rest :=
      typeOwners_append [(name, node)] rest
    have hskip : owners.Sublist (typeOwners ((name, node) :: rest)) := by
      rw [hsplit]
      exact hsub.trans (List.sublist_append_right _ _)
    cases hbound : node.isBound with
    | false =>
      rw [List.filter_cons_of_neg (by simp [hbound])]
      exact ⟨owners, hskip, hall⟩
    | true =>
      rw [List.filter_cons_of_pos (by simpa using hbound), List.filterMap_cons]
      cases hadapter : node.adapter? name with
      | none => exact ⟨owners, hskip, hall⟩
      | some adapter =>
        obtain ⟨body, howner, hisOf⟩ := (Node.adapter?_eq_some.mp hadapter).isOf
        refine ⟨(name, body) :: owners, ?_, .cons hisOf hall⟩
        rw [hsplit, typeOwners, List.filterMap_cons, howner]
        exact hsub.cons_cons _

namespace ResourceTree

/-- The adapters of all nodes. -/
def boundAdapters (tree : ResourceTree) : List Adapter :=
  tree.nodes.flatMap fun child => child.2.boundAdapters child.1

theorem boundAdapters_isOf (tree : ResourceTree) :
    ∃ owners : List (String × NestedObject Node), owners.Sublist tree.owners ∧
      Forall₂ (fun owner adapter => Adapter.IsOf adapter owner) owners tree.boundAdapters := by
  rw [boundAdapters, owners, typeOwners_walkAll]
  induction tree.nodes with
  | nil => exact ⟨[], List.Sublist.refl _, .nil⟩
  | cons child rest ih =>
    obtain ⟨later, hlater, hrest⟩ := ih
    obtain ⟨first, hfirst, hchild⟩ : ∃ owners : List (String × NestedObject Node),
        owners.Sublist (typeOwners (child.2.walk child.1)) ∧
        Forall₂ (fun owner adapter => Adapter.IsOf adapter owner) owners
          (child.2.boundAdapters child.1) := by
      rw [Node.boundAdapters]
      split
      · exact adapters_isOf _
      · exact ⟨[], List.nil_sublist _, .nil⟩
    exact ⟨first ++ later, hfirst.append hlater, List.rel_append hchild hrest⟩

theorem exists_owner (tree : ResourceTree) {adapter : Adapter} (h : adapter ∈ tree.boundAdapters) :
    ∃ owner ∈ tree.owners, adapter.IsOf owner := by
  obtain ⟨owners, hsub, hall⟩ := tree.boundAdapters_isOf
  obtain ⟨owner, howner, hisOf⟩ := exists_partner hall h
  exact ⟨owner, hsub.subset howner, hisOf⟩

theorem adapters_eq_join (tree : ResourceTree) : tree.adaptersSource.text =
    String.join ((tree.boundAdapters.flatMap Adapter.methods).map (·.text)) := by
  have hprint : ∀ adapter : Adapter,
      String.join (adapter.methods.map (·.text)) = adapter.source.text := fun adapter =>
    adapter.print_eq_methods.symm.trans (adapter.render_text adapter.render_eq)
  have hsource : tree.adaptersSource = tree.boundAdapters.flatMap Adapter.source := by
    rw [boundAdapters, List.flatMap_assoc]
    rfl
  rw [hsource, List.map_flatMap, join_flatMap]
  refine (join_of_sources ?_).symm
  rw [List.forall₂_map_right_iff, List.forall₂_same]
  exact fun adapter _ => hprint adapter

end ResourceTree

/-! ### Methods of a file -/

/-- The names of the methods that each type has of its own. -/
def typeMethodNames : List String :=
  ["Equal", "String", "ValueFromObject", "ValueFromTerraform", "ValueType"]

/-- The names of the methods that all values have of their own. -/
def valueMethodNames : List String := ["ToTerraformValue", "IsNull", "IsUnknown", "String",
  "ToObjectValue", "Equal", "Type", "AttributeTypes"]

theorem disjoint_flatMap {α β γ : Type} {f : α → List γ} {g : β → List γ} {as : List α} {bs : List β} :
    (as.flatMap f).Disjoint (bs.flatMap g) ↔ ∀ a ∈ as, ∀ b ∈ bs, (f a).Disjoint (g b) := by
  simp only [List.Disjoint, List.mem_flatMap]
  constructor
  · exact fun h a ha b hb c hleft hright => h ⟨a, ha, hleft⟩ ⟨b, hb, hright⟩
  · rintro h c ⟨a, ha, hleft⟩ ⟨b, hb, hright⟩
    exact h a ha b hb hleft hright

/-- The keys of a pair's methods. -/
def pairKeys (name : String) : List (String × String) :=
  typeMethodNames.map (fun method => (name ++ "Type", method)) ++
    valueMethodNames.map fun method => (name ++ "Value", method)

theorem keys_pairMethods (owner : String × NestedObject Node) :
    (pairMethods owner).map Method.key = pairKeys (Name.pascal owner.1) := rfl

theorem mem_pairKeys {name : String} {key : String × String} : key ∈ pairKeys name ↔
    key.1 = name ++ "Type" ∧ key.2 ∈ typeMethodNames ∨
      key.1 = name ++ "Value" ∧ key.2 ∈ valueMethodNames := by
  obtain ⟨type, method⟩ := key
  simp [pairKeys, eq_comm, and_comm]

theorem pairKeys_nodup (name : String) : (pairKeys name).Nodup := by
  have htypes : typeMethodNames.Nodup := by decide
  have hvalues : valueMethodNames.Nodup := by decide
  refine List.Nodup.append (htypes.map fun _ _ h => congrArg Prod.snd h)
    (hvalues.map fun _ _ h => congrArg Prod.snd h) fun key hleft hright => ?_
  obtain ⟨_, -, rfl⟩ := List.mem_map.mp hleft
  obtain ⟨_, -, hkey⟩ := List.mem_map.mp hright
  exact type_ne_value _ _ (congrArg Prod.fst hkey).symm

/-- The methods of a pair belong to the types of the pair. -/
theorem fst_mem_pairTypes {name : String} {key : String × String} (h : key ∈ pairKeys name) :
    key.1 ∈ pairTypes name := by
  rcases mem_pairKeys.mp h with ⟨htype, -⟩ | ⟨hvalue, -⟩
  · exact htype ▸ List.mem_cons_self
  · exact hvalue ▸ .tail _ (.head _)

/-- The methods of two pairs differ exactly if their names do. -/
theorem pairKeys_disjoint {a b : String} : (pairKeys a).Disjoint (pairKeys b) ↔ a ≠ b := by
  constructor
  · rintro hdisjoint rfl
    exact hdisjoint List.mem_cons_self List.mem_cons_self
  · intro hne key ha hb
    exact pairTypes_disjoint.mpr hne (fst_mem_pairTypes ha) (fst_mem_pairTypes hb)

namespace Adapter

theorem mem_keys {adapter : Adapter} {key : String × String} :
    key ∈ adapter.methods.map Method.key ↔ key.1 = Name.pascal adapter.name ++ "Value" ∧
      (key.2 = "To" ++ adapter.external.suffix ∨ key.2 = "From" ++ adapter.external.suffix) := by
  obtain ⟨type, method⟩ := key
  simp [methods, Method.key, and_or_left]

theorem keys_nodup (adapter : Adapter) : (adapter.methods.map Method.key).Nodup := by
  refine List.nodup_cons.mpr ⟨fun hmem => ?_, List.nodup_singleton _⟩
  have hname : "To" ++ adapter.external.suffix = "From" ++ adapter.external.suffix :=
    congrArg Prod.snd (List.mem_singleton.mp hmem)
  simpa using congrArg String.toList hname

/-- The adapters of objects with different names have no method in common. -/
theorem keys_disjoint {a b : Adapter} (h : Name.pascal a.name ≠ Name.pascal b.name) :
    (a.methods.map Method.key).Disjoint (b.methods.map Method.key) := by
  intro key ha hb
  exact h (by simpa using (mem_keys.mp ha).1.symm.trans (mem_keys.mp hb).1)

end Adapter

/-- The suffixes with which a method of adapters has the name of one of the values' own. -/
def ownSuffixes : List String := ["TerraformValue", "ObjectValue"]

theorem to_mem_valueMethodNames {suffix : String} :
    "To" ++ suffix ∈ valueMethodNames ↔ suffix ∈ ownSuffixes := by
  have hall : ∀ name ∈ valueMethodNames, name.toList.take 2 = ['T', 'o'] →
      name = "To" ++ "TerraformValue" ∨ name = "To" ++ "ObjectValue" := by decide
  simp only [ownSuffixes, List.mem_cons, List.not_mem_nil, or_false]
  constructor
  · intro h
    have hnames := hall _ h (by simp)
    rwa [String.append_right_inj, String.append_right_inj] at hnames
  · rintro (rfl | rfl)
    · exact .head _
    · exact .tail _ (.tail _ (.tail _ (.tail _ (.head _))))

theorem from_notMem_valueMethodNames {suffix : String} : "From" ++ suffix ∉ valueMethodNames := by
  have hall : ∀ name ∈ valueMethodNames, name.toList.head? ≠ some 'F' := by decide
  exact fun h => hall _ h (by simp)

/-- The methods that adapters add are not those of a pair, except where they have the name of one of the
values' own and belong to the pair's values. -/
theorem pairKeys_disjoint_keys {name : String} {adapter : Adapter} :
    (pairKeys name).Disjoint (adapter.methods.map Method.key) ↔
      (name = Name.pascal adapter.name → adapter.external.suffix ∉ ownSuffixes) := by
  constructor
  · rintro hdisjoint rfl hsuffix
    have hpair : (Name.pascal adapter.name ++ "Value", "To" ++ adapter.external.suffix) ∈
        pairKeys (Name.pascal adapter.name) :=
      mem_pairKeys.mpr (.inr ⟨rfl, to_mem_valueMethodNames.mpr hsuffix⟩)
    exact hdisjoint hpair (Adapter.mem_keys.mpr ⟨rfl, .inl rfl⟩)
  · intro hsuffix key hpair hadapter
    obtain ⟨hvalue, hmethod⟩ := Adapter.mem_keys.mp hadapter
    rcases mem_pairKeys.mp hpair with ⟨htype, -⟩ | ⟨hname, hown⟩
    · exact type_ne_value _ _ (htype.symm.trans hvalue)
    · rcases hmethod with hto | hfrom
      · exact hsuffix (by simpa using hname.symm.trans hvalue)
          (to_mem_valueMethodNames.mp (hto ▸ hown))
      · exact from_notMem_valueMethodNames (hfrom ▸ hown)

namespace ResourceTree

/-- The methods that a file declares: those of its pairs, and those of its adapters. -/
def methods (tree : ResourceTree) : List Method :=
  tree.owners.flatMap pairMethods ++ tree.boundAdapters.flatMap Adapter.methods

/-- The methods of pairs differ exactly if the owners' names do. -/
theorem pairMethods_nodup_iff (tree : ResourceTree) :
    ((tree.owners.flatMap pairMethods).map Method.key).Nodup ↔
      (tree.owners.map fun owner => Name.pascal owner.1).Nodup := by
  simp only [List.map_flatMap, keys_pairMethods]
  rw [List.nodup_flatMap, and_iff_right fun owner _ => pairKeys_nodup _, List.Nodup,
    List.pairwise_map]
  exact List.Pairwise.iff fun _ _ => pairKeys_disjoint

/-- If the names of the owners stay different, no two adapters define one method. -/
theorem adapterMethods_nodup {tree : ResourceTree}
    (h : (tree.owners.map fun owner => Name.pascal owner.1).Nodup) :
    ((tree.boundAdapters.flatMap Adapter.methods).map Method.key).Nodup := by
  obtain ⟨owners, hsub, hall⟩ := tree.boundAdapters_isOf
  have hnames : owners.map (fun owner => Name.pascal owner.1) =
      tree.boundAdapters.map fun adapter => Name.pascal adapter.name := by
    rw [← List.forall₂_eq_eq_eq, List.forall₂_map_left_iff, List.forall₂_map_right_iff]
    exact hall.imp fun _ _ hisOf => congrArg Name.pascal hisOf.name_eq.symm
  have hpascal : (tree.boundAdapters.map fun adapter => Name.pascal adapter.name).Nodup := by
    rw [← hnames]
    exact List.Nodup.sublist (hsub.map _) h
  rw [List.map_flatMap, List.nodup_flatMap]
  exact ⟨fun adapter _ => adapter.keys_nodup,
    (List.pairwise_map.mp hpascal).imp fun hne => Adapter.keys_disjoint hne⟩

/-- All methods differ exactly if the owners' names do and no adapter's method is one of the values' own. -/
theorem methods_nodup_iff (tree : ResourceTree) : (tree.methods.map Method.key).Nodup ↔
    (tree.owners.map fun owner => Name.pascal owner.1).Nodup ∧
      ∀ adapter ∈ tree.boundAdapters, adapter.external.suffix ∉ ownSuffixes := by
  rw [methods, List.map_append, List.nodup_append', pairMethods_nodup_iff]
  refine and_congr_right fun hnames => ?_
  rw [and_iff_right (adapterMethods_nodup hnames)]
  simp only [List.map_flatMap, keys_pairMethods, disjoint_flatMap, pairKeys_disjoint_keys]
  constructor
  · intro h adapter hadapter
    obtain ⟨owner, howner, hisOf⟩ := tree.exists_owner hadapter
    exact h owner howner adapter hadapter (congrArg Name.pascal hisOf.name_eq.symm)
  · exact fun h owner _ adapter hadapter _ => h adapter hadapter

end ResourceTree

/-- What a method of a name's values opens with. -/
def valueOpening (name method : String) : String := s!"\nfunc (v {name}Value) {method}("

theorem occurs_valueMethod (owner : String × NestedObject Node) {method : String}
    (h : method ∈ valueMethodNames) :
    Occurs (valueOpening (Name.pascal owner.1) method) (pairText owner) := by
  have hnames : (valueMethods owner).map (·.1) = valueMethodNames := rfl
  obtain ⟨m, hm, rfl⟩ := List.mem_map.mp (hnames ▸ h)
  obtain ⟨body, hbody⟩ := ValueText.opens_of_mem_methods hm
  have hopens : Occurs (valueOpening (Name.pascal owner.1) m.1) m.2 :=
    ⟨"", body, by rw [hbody, String.empty_append, valueOpening]⟩
  rw [pairText_eq]
  exact (hopens.trans (occurs_join (List.mem_map_of_mem hm))).append_left _

theorem Adapter.occurs_toMethod (adapter : Adapter) :
    Occurs (valueOpening (Name.pascal adapter.name) ("To" ++ adapter.external.suffix))
      (AdapterText.toExternal adapter.texts) := by
  obtain ⟨body, hbody⟩ := AdapterText.opens_toExternal adapter.texts
  exact ⟨"", body, by rw [hbody, String.empty_append]; rfl⟩

namespace ResourceTree

namespace Makes

variable {tree : ResourceTree} {options : FileOptions} {file : GeneratedFile}

theorem pairs_eq (h : tree.Makes options file) :
    file.typePairs = String.join (tree.owners.map pairText) := by
  rw [h.typePairs_eq]
  exact Except.ok.inj (tree.typePairs_eq.symm.trans tree.typePairs_eq_join)

theorem methods_eq (h : tree.Makes options file) : file.adapters =
    String.join ((tree.boundAdapters.flatMap Adapter.methods).map (·.text)) :=
  h.adapters_eq.trans tree.adapters_eq_join

/-- Where an adapter's method has the name of one of the values' own, both sections declare it. -/
theorem occurs_twice (h : tree.Makes options file) {adapter : Adapter}
    (hadapter : adapter ∈ tree.boundAdapters) (hsuffix : adapter.external.suffix ∈ ownSuffixes) :
    Occurs (valueOpening (Name.pascal adapter.name) ("To" ++ adapter.external.suffix))
        file.typePairs ∧
      Occurs (valueOpening (Name.pascal adapter.name) ("To" ++ adapter.external.suffix))
        file.adapters := by
  constructor
  · obtain ⟨owner, howner, hisOf⟩ := tree.exists_owner hadapter
    have hpair : pairText owner ∈ tree.owners.map pairText := List.mem_map_of_mem howner
    rw [h.pairs_eq, hisOf.name_eq]
    exact (occurs_valueMethod owner (to_mem_valueMethodNames.mpr hsuffix)).trans (occurs_join hpair)
  · have hmethod : AdapterText.toExternal adapter.texts ∈
        (tree.boundAdapters.flatMap Adapter.methods).map (·.text) :=
      List.mem_map.mpr ⟨_, List.mem_flatMap.mpr ⟨adapter, hadapter, List.mem_cons_self⟩, rfl⟩
    rw [h.methods_eq]
    exact adapter.occurs_toMethod.trans (occurs_join hmethod)

end Makes

end ResourceTree

/-! ### The theorem -/

/-- What the file of a tree declares.

The sections are declarations one after the other.  There is the struct of the model; the pairs are those
of the objects that no custom type replaces, wherever they are in the tree, each under its own name in
Pascal case; and the adapters are methods of such objects' values, at most one adapter to each object.
Siblings have different names.  So a type is declared twice exactly if two of the objects have one name in
Pascal case.  If none have, no two adapters define one method, and then a method is declared twice exactly
if an adapter adds one that the values of its object have of their own. -/
structure ResourceTree.Declares (tree : ResourceTree) (file : GeneratedFile) : Prop where
  model : tree.modelSource.text =
    structText (Name.pascal tree.name ++ "Model") (file.modelFields.map (·.line)) ""
  pairs : file.typePairs = String.join (tree.owners.map pairText)
  pair : ∀ owner ∈ tree.owners, PairDeclarations owner
  adapters : file.adapters =
    String.join ((tree.boundAdapters.flatMap Adapter.methods).map (·.text))
  adapter_opens : ∀ adapter ∈ tree.boundAdapters, ∀ m ∈ adapter.methods, m.Opens
  adapter_owners : ∃ owners : List (String × NestedObject Node), owners.Sublist tree.owners ∧
    Forall₂ (fun owner adapter => Adapter.IsOf adapter owner) owners tree.boundAdapters
  siblings : SiblingsDiffer tree.attributes tree.blocks ∧
    ∀ node ∈ Node.walkAll tree.nodes, ∀ object, node.2.object? = some object →
      SiblingsDiffer object.attributes object.blocks
  types_nodup_iff : tree.declaredTypes.Nodup ↔
    (tree.owners.map fun owner => Name.pascal owner.1).Nodup
  adapterMethods_nodup : (tree.owners.map fun owner => Name.pascal owner.1).Nodup →
    ((tree.boundAdapters.flatMap Adapter.methods).map Method.key).Nodup
  methods_nodup_iff : (tree.methods.map Method.key).Nodup ↔
    (tree.owners.map fun owner => Name.pascal owner.1).Nodup ∧
      ∀ adapter ∈ tree.boundAdapters, adapter.external.suffix ∉ ownSuffixes

/-- **Declarations of a file.**  Every file that is generated for a resource declares the types of
the objects in the resource's tree, with their methods, and the methods of their adapters. -/
theorem declares_of_generate {options : FileOptions} {resource : Resource} {file : GeneratedFile}
    (h : resource.generate options = .ok file) :
    ∃ tree, resource.build = .ok tree ∧ tree.Makes options file ∧ tree.Declares file := by
  obtain ⟨tree, htree, hmakes⟩ := Resource.makes_of_generate h
  obtain ⟨schema, -, hrepresents⟩ := Resource.represented htree
  have hmodel : tree.modelSource.text =
      structText (Name.pascal tree.name ++ "Model") (file.modelFields.map (·.line)) "" := by
    rw [hmakes.modelFields_eq]
    exact tree.model_eq_struct
  exact ⟨tree, htree, hmakes, {
    model := hmodel
    pairs := hmakes.pairs_eq
    pair := fun owner _ => pairDeclarations owner
    adapters := hmakes.methods_eq
    adapter_opens := fun _ _ _ => Adapter.opens_of_mem_methods
    adapter_owners := tree.boundAdapters_isOf
    siblings := hrepresents.siblingsDiffer
    types_nodup_iff := tree.declaredTypes_nodup_iff
    adapterMethods_nodup := ResourceTree.adapterMethods_nodup
    methods_nodup_iff := tree.methods_nodup_iff }⟩

/-- A file is generated if all nodes at the top are adaptable. -/
theorem Resource.exists_makes {resource : Resource} {tree : ResourceTree}
    (hbuild : resource.build = .ok tree) (h : ∀ child ∈ tree.nodes, child.2.Adaptable)
    (options : FileOptions) :
    ∃ file, resource.generate options = .ok file ∧ tree.Makes options file := by
  have hall : ∀ child ∈ tree.nodes, ∃ text, child.2.adapters child.1 = .ok text :=
    fun child hchild => (Node.exists_adapters_iff (h child hchild).isBound).mpr (h child hchild)
  obtain ⟨texts, htexts⟩ := exists_forall₂_iff.mpr hall
  obtain ⟨file, hfile⟩ := ResourceTree.exists_generate
    (bind_eq_ok.mpr ⟨texts, mapM_eq_ok.mpr htexts, rfl⟩) options
  exact ⟨file, bind_eq_ok.mpr ⟨tree, hbuild, hfile⟩, ResourceTree.makes_of_generate hfile⟩

/-- The two pairs of a block with an object in it have different names, and neither a type nor a method is
declared twice. -/
theorem declares_of_generate_boundResource :
    ∃ (file : GeneratedFile) (tree : ResourceTree), boundResource.generate {} = .ok file ∧
      tree.Declares file ∧ tree.declaredTypes.Nodup ∧ tree.declaredTypes =
        ["FirewallModel", "RuleType", "RuleValue", "InnerRuleType", "InnerRuleValue"] ∧
      (tree.methods.map Method.key).Nodup ∧
      (tree.boundAdapters.flatMap Adapter.methods).map Method.key =
        [("RuleValue", "ToApiRule"), ("RuleValue", "FromApiRule"),
          ("InnerRuleValue", "ToApiInner"), ("InnerRuleValue", "FromApiInner")] := by
  have hobject : NestedObject.build "firewall" [] [boundBlock] = .ok _ :=
    (NestedObject.build_eq _ _ _).trans rfl
  obtain ⟨tree, hbuild, hadaptable, htypes, hsuffixes, hkeys⟩ : ∃ tree,
      boundResource.build = .ok tree ∧ (∀ child ∈ tree.nodes, child.2.Adaptable) ∧
      tree.declaredTypes =
        ["FirewallModel", "RuleType", "RuleValue", "InnerRuleType", "InnerRuleValue"] ∧
      (∀ adapter ∈ tree.boundAdapters, adapter.external.suffix ∉ ownSuffixes) ∧
      (tree.boundAdapters.flatMap Adapter.methods).map Method.key =
        [("RuleValue", "ToApiRule"), ("RuleValue", "FromApiRule"),
          ("InnerRuleValue", "ToApiInner"), ("InnerRuleValue", "FromApiInner")] := by
    simp only [boundResource, Resource.build, hobject]
    refine ⟨_, rfl, fun child hchild => ?_, by decide +kernel, by decide +kernel, by decide +kernel⟩
    obtain rfl := List.mem_singleton.mp hchild
    exact ⟨rfl, rfl, rfl, rfl, .inr ⟨rfl, rfl, rfl, rfl, rfl, trivial⟩, trivial⟩
  obtain ⟨file, hgenerate, -⟩ := Resource.exists_makes hbuild hadaptable {}
  obtain ⟨tree', hbuild', -, hdeclares⟩ := declares_of_generate hgenerate
  obtain rfl : tree = tree' := Except.ok.inj (hbuild.symm.trans hbuild')
  have hnodup : tree.declaredTypes.Nodup := by
    rw [htypes]
    decide
  exact ⟨file, tree, hgenerate, hdeclares, hnodup, htypes,
    hdeclares.methods_nodup_iff.mpr ⟨hdeclares.types_nodup_iff.mp hnodup, hsuffixes⟩, hkeys⟩

/-! ### Declared twice -/

/-- An object with a flag in it, which is bound to a type. -/
def boundFlagAttribute (name type : String) : Attribute :=
  .mk name (.single { mode := .optional } (some { type })
    [.mk "on" (.leaf (.bool { mode := .optional }))])

/-- A bound object with another one in it. -/
def sideAttribute (name : String) : Attribute :=
  .mk name (.single { mode := .optional } (some { type := "*api.Side" })
    [boundFlagAttribute "config" "*api.Config"])

/-- Two objects, each with an object of one and the same name in it. -/
def sidesResource : Resource :=
  { name := "r", schema := some { attributes := [sideAttribute "a", sideAttribute "b"] } }

/-- One object, which is bound to a type with the name that objects have in the framework. -/
def valueResource : Resource :=
  { name := "r", schema := some { attributes := [boundFlagAttribute "rule" "*object.Value"] } }

def optionalFacets (kind : ValueKind) : NodeFacets :=
  { mode := some .optional, planModifiers := ⟨kind, []⟩, validators := ⟨kind, []⟩ }

def objectNode (object : NestedObject Node) : Node :=
  .nested .singleAttribute (optionalFacets .object) object

def boundFlagObject (type : String) : NestedObject Node :=
  { external := some { type }
    attributes := [("on", .scalar .bool (optionalFacets (.scalar .bool)))] }

def sideObject : NestedObject Node :=
  { external := some { type := "*api.Side" }
    attributes := [("config", objectNode (boundFlagObject "*api.Config"))] }

theorem adaptable_boundFlagObject (type : String) : (objectNode (boundFlagObject type)).Adaptable := by
  simp [Node.Adaptable, ConvertibleChildren, objectNode, boundFlagObject, Node.kind, NestedKind.isSingle]

theorem adaptable_sideObject : (objectNode sideObject).Adaptable := by
  simp [Node.Adaptable, ConvertibleChildren, objectNode, sideObject, boundFlagObject, Node.kind,
    NestedKind.isSingle]

theorem build_sidesResource : ∃ tree, sidesResource.build = .ok tree ∧
    tree.nodes = [("a", objectNode sideObject), ("b", objectNode sideObject)] := by
  have hobject : NestedObject.build "r" [sideAttribute "a", sideAttribute "b"] [] = .ok _ :=
    (NestedObject.build_eq _ _ _).trans rfl
  simp only [sidesResource, Resource.build, hobject]
  exact ⟨_, rfl, rfl⟩

theorem build_valueResource : ∃ tree, valueResource.build = .ok tree ∧ tree.name = "r" ∧
    tree.nodes = [("rule", objectNode (boundFlagObject "*object.Value"))] := by
  have hobject : NestedObject.build "r" [boundFlagAttribute "rule" "*object.Value"] [] = .ok _ :=
    (NestedObject.build_eq _ _ _).trans rfl
  simp only [valueResource, Resource.build, hobject]
  exact ⟨_, rfl, rfl, rfl⟩

/-- Where two objects have one name, their types are declared twice with one and the same text, and the
methods of their values are too.  Where the names differ, an adapter can still declare a method of the
values again. -/
theorem declared_twice :
    (∃ (file : GeneratedFile) (tree : ResourceTree), sidesResource.generate {} = .ok file ∧
      sidesResource.build = .ok tree ∧
      tree.owners = [("a", sideObject), ("config", boundFlagObject "*api.Config"),
        ("b", sideObject), ("config", boundFlagObject "*api.Config")] ∧
      file.typePairs = String.join (tree.owners.map pairText) ∧
      DeclaresPair "Config" (pairText ("config", boundFlagObject "*api.Config")) ∧
      ¬ tree.declaredTypes.Nodup ∧
      file.adapters = String.join ((tree.boundAdapters.flatMap Adapter.methods).map (·.text)) ∧
      (tree.boundAdapters.flatMap Adapter.methods).map Method.key = [
        ("AValue", "ToApiSide"), ("AValue", "FromApiSide"),
        ("ConfigValue", "ToApiConfig"), ("ConfigValue", "FromApiConfig"),
        ("BValue", "ToApiSide"), ("BValue", "FromApiSide"),
        ("ConfigValue", "ToApiConfig"), ("ConfigValue", "FromApiConfig")]) ∧
    ∃ (file : GeneratedFile) (tree : ResourceTree), valueResource.generate {} = .ok file ∧
      valueResource.build = .ok tree ∧ tree.declaredTypes = ["RModel", "RuleType", "RuleValue"] ∧
      Occurs "\nfunc (v RuleValue) ToObjectValue(" file.typePairs ∧
      Occurs "\nfunc (v RuleValue) ToObjectValue(" file.adapters := by
  refine ⟨?sides, ?value⟩
  case sides =>
    obtain ⟨tree, hbuild, hnodes⟩ := build_sidesResource
    have hadaptable : ∀ child ∈ tree.nodes, child.2.Adaptable := by
      simp [hnodes, adaptable_sideObject]
    obtain ⟨file, hgenerate, hmakes⟩ := Resource.exists_makes hbuild hadaptable {}
    have howners : tree.owners = [("a", sideObject), ("config", boundFlagObject "*api.Config"),
        ("b", sideObject), ("config", boundFlagObject "*api.Config")] := by
      rw [ResourceTree.owners, hnodes]
      rfl
    obtain ⟨text, htext, hdeclares⟩ := (boundFlagObject "*api.Config").typePair_ok "config"
    have hname : Name.pascal "config" = "Config" := by decide +kernel
    obtain rfl : pairText ("config", boundFlagObject "*api.Config") = text :=
      Except.ok.inj ((NestedObject.typePair_eq_print "config" _).symm.trans htext)
    rw [hname] at hdeclares
    refine ⟨file, tree, hgenerate, hbuild, howners, hmakes.pairs_eq, hdeclares, ?_,
      hmakes.methods_eq, ?_⟩
    · rw [tree.declaredTypes_nodup_iff, howners]
      simp
    · rw [ResourceTree.boundAdapters, hnodes]
      decide +kernel
  case value =>
    obtain ⟨tree, hbuild, hname, hnodes⟩ := build_valueResource
    have hadaptable : ∀ child ∈ tree.nodes, child.2.Adaptable := by
      simp [hnodes, adaptable_boundFlagObject]
    obtain ⟨file, hgenerate, hmakes⟩ := Resource.exists_makes hbuild hadaptable {}
    obtain ⟨adapter, hadapter, hrule, hsuffix⟩ : ∃ adapter ∈ tree.boundAdapters,
        Name.pascal adapter.name = "Rule" ∧ adapter.external.suffix = "ObjectValue" := by
      rw [ResourceTree.boundAdapters, hnodes]
      exact ⟨_, .head _, by decide +kernel, by decide +kernel⟩
    have htwice := hmakes.occurs_twice hadapter (hsuffix ▸ .tail _ (.head _))
    rw [hrule, hsuffix] at htwice
    refine ⟨file, tree, hgenerate, hbuild, ?_, htwice⟩
    rw [ResourceTree.declaredTypes, ResourceTree.owners, hname, hnodes]
    decide +kernel

end ProviderCode
