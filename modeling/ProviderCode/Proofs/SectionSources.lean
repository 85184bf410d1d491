import ProviderCode.Proofs.GeneratedTypes
import ProviderCode.Proofs.TemplateSources
import ProviderCode.Resource.Tree

/-!
# Sources of the sections of a file

Type pairs and adapters are rendered from templates.  Their sources have the texts of the templates
as the generator's own, and in the places the sources of the fields; names, external types and
suffixes come from the specification.

* `ResourceTree.typePairs_eq`, `ResourceTree.adapters_text`: the texts of these sources are the
  sections of the generated file.
-/

namespace ProviderCode

open List (Forall₂)

/-! ### Contexts with sources -/

/-- A field as templates know it, with the sources of its types. -/
def FieldDescriptor.slot (field : FieldDescriptor) : Slot :=
  let plain : List (String × Slot) := [
    ("name", .source [.verbatim field.name]),
    ("pascal", .source [.name field.pascal]),
    ("camel", .source [.name field.camel]),
    ("value_type", .source field.valueType),
    ("attr_type", .source field.attributeType)]
  let collection : Option (String × Slot) := field.collection.map fun c =>
    ("collection", .record [
      ("kind", .source [.fixed c.shape.framework]),
      ("element_type", .source c.elementType)])
  .record (plain ++ collection.toList)

def NestedObject.slot (name : String) (object : NestedObject Node) : Slot :=
  .record [
    ("name", .source [.name (Name.pascal name)]),
    ("fields", .list (object.fieldDescriptors.map FieldDescriptor.slot))]

/-- A conversion as templates know it; methods and functions of the framework are the generator's
own words. -/
def Conversion.slot (c : Conversion) : Slot :=
  let common : List (String × Slot) := [
    ("name", .source [.verbatim c.name]),
    ("pascal", .source [.name (Name.pascal c.name)]),
    ("camel", .source [.name (Name.camel c.name)])]
  match c.exchange with
  | .scalar type wrapper =>
    .record (common ++ [
      ("object", .flag false),
      ("to", .source [.fixed type.toMethod]),
      ("from", .source [.fixed type.fromFunction]),
      ("base", .source [.fixed type.framework])] ++
      (wrapper.map fun w => ("custom_value_type", Slot.source [.verbatim w])).toList ++ [
      ("type_name", .source []),
      ("suffix", .source [])])
  | .object suffix =>
    .record (common ++ [
      ("object", .flag true),
      ("to", .source []),
      ("from", .source []),
      ("base", .source []),
      ("type_name", .source [.name (Name.pascal c.name)]),
      ("suffix", .source [.name suffix])])

/-- The expression of the value that stands for no object. -/
def ExternalType.zeroSource (t : ExternalType) : Source :=
  if t.isPointer then [.fixed "nil"] else [.verbatim t.reference, .fixed "\x7b\x7d"]

def ExternalType.slot (name : String) (external : ExternalType) (fields : List Conversion) : Slot :=
  .record [
    ("name", .source [.name (Name.pascal name)]),
    ("external_type", .source [.verbatim external.type]),
    ("type_reference", .source [.verbatim external.reference]),
    ("pointer", .flag external.isPointer),
    ("zero", .source external.zeroSource),
    ("suffix", .source [.name external.suffix]),
    ("fields", .list (fields.map Conversion.slot))]

theorem Slot.values_map {α : Type} {f : α → Slot} {g : α → Json.Value} (h : ∀ a, (f a).value = g a)
    (as : List α) : Slot.values (as.map f) = as.map g := by
  rw [Slot.values_eq_map, List.map_map]
  exact List.map_congr_left fun a _ => h a

theorem FieldDescriptor.value_slot (field : FieldDescriptor) : field.slot.value = field.context := by
  cases h : field.collection with
  | none => simp [slot, context, h, Slot.value, Slot.memberValues, Chunk.text]
  | some c => simp [slot, context, h, Slot.value, Slot.memberValues, Chunk.text]

theorem NestedObject.value_slot (name : String) (object : NestedObject Node) :
    (object.slot name).value = object.context name := by
  simp [slot, context, Slot.value, Slot.memberValues, Chunk.text,
    Slot.values_map FieldDescriptor.value_slot]

theorem Conversion.value_slot (c : Conversion) : c.slot.value = c.context := by
  cases h : c.exchange with
  | scalar type wrapper =>
    cases wrapper <;> simp [slot, context, h, Slot.value, Slot.memberValues, Chunk.text]
  | object suffix => simp [slot, context, h, Slot.value, Slot.memberValues, Chunk.text]

theorem ExternalType.text_zeroSource (t : ExternalType) : t.zeroSource.text = t.zero := by
  unfold zeroSource zero
  split <;> simp [Chunk.text]

theorem ExternalType.value_slot (name : String) (external : ExternalType)
    (fields : List Conversion) : (external.slot name fields).value = external.context name fields := by
  simp [slot, context, Slot.value, Slot.memberValues, Chunk.text, ExternalType.text_zeroSource,
    Slot.values_map Conversion.value_slot]

/-! ### Rendered texts -/

/-- A text that a template renders is that of its source. -/
theorem Template.render_trace {template : Template} {name text : String} {slot : Slot}
    (h : template.render name slot.value = .ok text) : text = (template.trace slot).text := by
  rw [render] at h
  cases htexts : renderPieces? { context := slot.value } template.pieces with
  | none => rw [htexts] at h; cases h
  | some texts =>
    rw [htexts] at h
    cases h
    have hscope : renderPieces? (SlotScope.values { context := slot }) template.pieces = some texts :=
      htexts
    exact join_renderPieces? hscope

/-- Texts of members one after the other have the source of all members. -/
theorem join_of_sources {α : Type} {f : α → Source} {as : List α} {texts : List String}
    (h : Forall₂ (fun a text => text = (f a).text) as texts) :
    String.join texts = Source.text (as.flatMap f) := by
  induction h with
  | nil => rfl
  | cons hd _ ih => rw [String.join_cons, List.flatMap_cons, Source.text_append, ih, hd]

/-! ### Type pairs -/

/-- The type and the value type of an object. -/
def NestedObject.typePairSource (name : String) (object : NestedObject Node) : Source :=
  Template.objectType.trace (object.slot name) ++ Template.objectValue.trace (object.slot name)

theorem NestedObject.typePair_text {name text : String} {object : NestedObject Node}
    (h : object.typePair name = .ok text) : text = (object.typePairSource name).text := by
  rw [typePair, ← object.value_slot name] at h
  obtain ⟨type, htype, h⟩ := bind_eq_ok.mp h
  obtain ⟨value, hvalue, h⟩ := bind_eq_ok.mp h
  cases h
  rw [typePairSource, Source.text_append, Template.render_trace htype, Template.render_trace hvalue]

/-- The pairs of a node and its descendants in preorder. -/
def Node.typePairsSource (name : String) (node : Node) : Source :=
  (typeOwners (node.walk name)).flatMap fun owner => owner.2.typePairSource owner.1

theorem Node.typePairs_eq (name : String) (node : Node) :
    node.typePairs name = .ok (node.typePairsSource name).text := by
  obtain ⟨texts, htexts, hpairs⟩ := node.typePairs_ok name
  rw [htexts, typePairsSource]
  exact congrArg _ (join_of_sources (hpairs.imp fun _ _ h => NestedObject.typePair_text h.1))

/-- The pairs of all nodes. -/
def ResourceTree.typePairsSource (tree : ResourceTree) : Source :=
  tree.nodes.flatMap fun child => child.2.typePairsSource child.1

theorem ResourceTree.typePairs_eq (tree : ResourceTree) :
    tree.typePairs = .ok tree.typePairsSource.text := by
  have hall : tree.nodes.mapM (fun child => child.2.typePairs child.1) =
      .ok (tree.nodes.map fun child => (child.2.typePairsSource child.1).text) := by
    rw [mapM_eq_ok, List.forall₂_map_right_iff, List.forall₂_same]
    exact fun child _ => child.2.typePairs_eq child.1
  rw [typePairs, hall]
  refine congrArg Except.ok (join_of_sources ?_)
  rw [List.forall₂_map_right_iff, List.forall₂_same]
  exact fun _ _ => rfl

/-! ### Adapters -/

/-- One pair of adapters. -/
def Adapter.source (adapter : Adapter) : Source :=
  Template.adapters.trace (adapter.external.slot adapter.name adapter.fields)

theorem Adapter.render_text {adapter : Adapter} {text : String} (h : adapter.render = .ok text) :
    text = adapter.source.text := by
  rw [render, ← ExternalType.value_slot] at h
  exact Template.render_trace h

namespace Node

/-- The adapters of a node itself, if it is bound and its fields can be converted. -/
def adapter? (name : String) (node : Node) : Option Adapter :=
  match node.object? with
  | none => none
  | some body =>
    match body.external, conversions name node.kind body with
    | some external, .ok fields => some ⟨name, external, fields⟩
    | _, _ => none

theorem adapter?_eq_some {name : String} {node : Node} {adapter : Adapter} :
    node.adapter? name = some adapter ↔ node.HasAdapter name adapter := by
  constructor
  · intro h
    unfold adapter? at h
    split at h
    · cases h
    · next body hbody =>
      split at h
      · next external fields hexternal hfields =>
        cases h
        exact ⟨rfl, body, hbody, hexternal, hfields⟩
      · cases h
  · intro h
    obtain ⟨body, hbody, hexternal, hfields⟩ := h.object
    rw [adapter?, hbody]
    simp only [hexternal, hfields]
    rw [← h.name_eq]

/-- The adapters of the bound nodes of a tree, if the node itself is bound. -/
def boundAdapters (name : String) (node : Node) : List Adapter :=
  if node.isBound then ((node.walk name).filter (·.2.isBound)).filterMap fun c => c.2.adapter? c.1
  else []

theorem mem_boundAdapters {name : String} {node : Node} {adapter : Adapter}
    (h : adapter ∈ node.boundAdapters name) :
    ∃ child ∈ node.walk name, child.2.HasAdapter child.1 adapter := by
  unfold boundAdapters at h
  split at h
  · obtain ⟨child, hchild, hadapter⟩ := List.mem_filterMap.mp h
    exact ⟨child, (List.mem_filter.mp hchild).1, adapter?_eq_some.mp hadapter⟩
  · exact absurd h List.not_mem_nil

def adaptersSource (name : String) (node : Node) : Source :=
  (node.boundAdapters name).flatMap Adapter.source

theorem adapters_text {name text : String} {node : Node} (h : node.adapters name = .ok text) :
    text = (node.adaptersSource name).text := by
  by_cases hbound : node.isBound = true
  · rw [adapters_eq hbound, map_eq_ok] at h
    obtain ⟨texts, htexts, rfl⟩ := h
    have hown : Forall₂ (fun child text => ∃ adapter : Adapter, child.2.HasAdapter child.1 adapter ∧
        adapter.render = .ok text) ((node.walk name).filter (·.2.isBound)) texts := by
      rw [preorder_eq] at htexts
      refine forall₂_imp_of_mem (mapM_eq_ok.mp htexts) fun child text hchild htext => ?_
      exact (ownAdapters_eq_ok (List.mem_filter.mp hchild).2).mp htext
    have hsources : ∀ {children : Children Node} {texts : List String},
        Forall₂ (fun child text => ∃ adapter : Adapter, child.2.HasAdapter child.1 adapter ∧
          adapter.render = .ok text) children texts →
        Forall₂ (fun adapter text => text = (Adapter.source adapter).text)
          (children.filterMap fun c => c.2.adapter? c.1) texts := by
      intro children texts hall
      induction hall with
      | nil => exact .nil
      | cons hd _ ih =>
        obtain ⟨adapter, hadapter, hrender⟩ := hd
        rw [List.filterMap_cons, adapter?_eq_some.mpr hadapter]
        exact .cons (Adapter.render_text hrender) ih
    rw [adaptersSource, boundAdapters, if_pos hbound]
    exact join_of_sources (hsources hown)
  · rw [adapters_of_unbound (Bool.not_eq_true _ ▸ hbound)] at h
    rw [adaptersSource, boundAdapters, if_neg hbound]
    cases h
    rfl

end Node

/-- The adapters of all nodes. -/
def ResourceTree.adaptersSource (tree : ResourceTree) : Source :=
  tree.nodes.flatMap fun child => child.2.adaptersSource child.1

theorem ResourceTree.adapters_text {tree : ResourceTree} {text : String}
    (h : tree.adapters = .ok text) : text = tree.adaptersSource.text := by
  obtain ⟨texts, htexts, htext⟩ := bind_eq_ok.mp h
  cases htext
  exact join_of_sources ((mapM_eq_ok.mp htexts).imp fun _ _ hchild => Node.adapters_text hchild)

end ProviderCode
