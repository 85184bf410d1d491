import ProviderCode.Proofs.PairOrder
import ProviderCode.Proofs.PrintedAdapters

/-!
# Calls between adapters

The adapters of an object convert a field that is itself an object by calling the adapters of that
field's value.  What is called is fixed when the field is converted; the methods are named when the
list of bound nodes comes to the field's own node.

Main statement: where adapters are generated, every call in them is answered by methods in the same
text, of the very type and suffix that the call has, and each bound object below a bound node has its
adapters once.
-/

namespace ProviderCode

open List (Forall₂)

/-! ### Texts within texts -/

theorem Occurs.trans {a b c : String} (hab : Occurs a b) (hbc : Occurs b c) : Occurs a c := by
  obtain ⟨before, after, rfl⟩ := hab
  obtain ⟨first, last, rfl⟩ := hbc
  exact ⟨first ++ before, after ++ last, by simp only [String.append_assoc]⟩

theorem occurs_join {text : String} {texts : List String} (h : text ∈ texts) :
    Occurs text (String.join texts) := by
  obtain ⟨before, after, rfl⟩ := List.append_of_mem h
  refine ⟨String.join before, String.join after, ?_⟩
  rw [String.join_append, String.join_cons, String.append_assoc]

/-- The group of lines of a field is among those of all fields. -/
theorem occurs_eachField {α : Type} (group : α → String) {field : α} {fields : List α}
    (h : field ∈ fields) : Occurs (group field) (eachField group fields) :=
  occurs_join (List.mem_map.mpr ⟨field, h, rfl⟩)

/-! ### Calls and methods -/

/-- The methods that answer the calls with which a field is converted: its value is converted by a
method of the value's type, and made by another one. -/
structure AdapterTexts.Answers (callee caller : AdapterTexts) (field : ConversionTexts) : Prop where
  type_eq : callee.name = field.typeName
  suffix_eq : callee.suffix = field.suffix
  toCall : Occurs
    s!"\t{field.camel}Field, d := {field.camel}Object.({field.typeName}Value).To{field.suffix}(ctx)\n"
    (AdapterText.print caller)
  toMethod : Occurs s!"func (v {field.typeName}Value) To{field.suffix}(ctx context.Context) ("
    (AdapterText.print callee)
  fromCall : Occurs
    s!"\t{field.camel}Value, d := {field.typeName}Value\x7b\x7d.From{field.suffix}(ctx, apiObject.{field.pascal})\n"
    (AdapterText.print caller)
  fromMethod : Occurs
    s!"func (v {field.typeName}Value) From{field.suffix}(ctx context.Context, apiObject "
    (AdapterText.print callee)

namespace AdapterText

variable {adapter : AdapterTexts} {field : ConversionTexts}

theorem occurs_toExternal {text : String} (h : Occurs text (toExternal adapter)) :
    Occurs text (print adapter) :=
  h.append_right _

theorem occurs_fromExternal {text : String} (h : Occurs text (fromExternal adapter)) :
    Occurs text (print adapter) :=
  h.append_left _

/-- The adapters of a value declare a method in each direction. -/
theorem occurs_methods (adapter : AdapterTexts) :
    Occurs s!"func (v {adapter.name}Value) To{adapter.suffix}(ctx context.Context) ("
      (print adapter) ∧
    Occurs s!"func (v {adapter.name}Value) From{adapter.suffix}(ctx context.Context, apiObject "
      (print adapter) := by
  constructor
  · apply occurs_toExternal
    refine Occurs.trans ⟨"", s!"{adapter.externalType}, diag.Diagnostics) \x7b\n", ?_⟩
      (occurs_join (List.mem_cons_of_mem _ List.mem_cons_self))
    simp only [Template.toString_string, String.append_assoc, String.empty_append]
  · apply occurs_fromExternal
    refine Occurs.trans
      ⟨"", s!"{adapter.externalType}) ({adapter.name}Value, diag.Diagnostics) \x7b\n", ?_⟩
      (occurs_join (List.mem_cons_of_mem _ List.mem_cons_self))
    simp only [Template.toString_string, String.append_assoc, String.empty_append]

/-- A field that is an object is converted by a call in each direction. -/
theorem occurs_calls (h : field ∈ adapter.fields) (hobject : field.object = true) :
    Occurs
      s!"\t{field.camel}Field, d := {field.camel}Object.({field.typeName}Value).To{field.suffix}(ctx)\n"
      (print adapter) ∧
    Occurs
      s!"\t{field.camel}Value, d := {field.typeName}Value\x7b\x7d.From{field.suffix}(ctx, apiObject.{field.pascal})\n"
      (print adapter) := by
  constructor
  · have hgroup : Occurs (toObject adapter.zero field) (toExternal adapter) :=
      (occurs_eachField _ h).trans (occurs_join (by simp))
    apply occurs_toExternal
    refine Occurs.trans ?_ hgroup
    rw [toObject, if_pos hobject]
    exact occurs_join (by simp)
  · have hgroup : Occurs (fromObject adapter.name field) (fromExternal adapter) :=
      (occurs_eachField _ h).trans (occurs_join (by simp))
    apply occurs_fromExternal
    refine Occurs.trans ?_ hgroup
    rw [fromObject, if_pos hobject]
    exact occurs_join (by simp)

/-- Methods of the type and suffix of a field answer the calls for it. -/
theorem answers {callee : AdapterTexts} (h : field ∈ adapter.fields) (hobject : field.object = true)
    (htype : callee.name = field.typeName) (hsuffix : callee.suffix = field.suffix) :
    callee.Answers adapter field := by
  obtain ⟨htoCall, hfromCall⟩ := occurs_calls h hobject
  obtain ⟨htoMethod, hfromMethod⟩ := occurs_methods callee
  rw [htype, hsuffix] at htoMethod hfromMethod
  exact ⟨htype, hsuffix, htoCall, htoMethod, hfromCall, hfromMethod⟩

end AdapterText

/-! ### Adapters of objects -/

/-- The adapters that are made for an object under its name: those of its external type, with one
conversion for each of its attributes. -/
structure Adapter.IsOf (adapter : Adapter) (owner : String × NestedObject Node) : Prop where
  name_eq : adapter.name = owner.1
  external_eq : owner.2.external = some adapter.external
  fields : Forall₂ (fun child c => child.2.conversion child.1 = .ok c) owner.2.attributes
    adapter.fields

namespace Node

/-- Only objects are converted by calls: single ones that are bound and have no custom type. -/
theorem exists_object_of_conversion {name : String} {node : Node} {c : Conversion}
    (h : node.conversion name = .ok c) (hobject : c.texts.object = true) :
    ∃ body external, node.object? = some body ∧ body.external = some external ∧
      body.customType = none ∧ c = ⟨name, .object external.suffix⟩ := by
  rcases conversion_eq_ok.mp h with
    ⟨type, f, rfl, rfl⟩ | ⟨f, body, external, rfl, hexternal, hcustom, rfl⟩
  · cases hobject
  · exact ⟨body, external, rfl, hexternal, hcustom, rfl⟩

/-- A node with adapters owns a pair of types as well. -/
theorem HasAdapter.isOf {name : String} {node : Node} {adapter : Adapter}
    (h : node.HasAdapter name adapter) :
    ∃ body, node.typeOwner? = some body ∧ adapter.IsOf (name, body) := by
  obtain ⟨body, hbody, hexternal, hconversions⟩ := h.object
  obtain ⟨-, hcustom, -, hfields⟩ := conversions_eq_ok.mp hconversions
  exact ⟨body, Option.filter_eq_some_iff.mpr ⟨hbody, Option.isNone_iff_eq_none.mpr hcustom⟩,
    h.name_eq, hexternal, hfields⟩

end Node

/-- The adapters of bound nodes are those of the owners among them that are bound. -/
theorem forall₂_boundOwners {nodes : Children Node} {adapters : List Adapter}
    (h : Forall₂ (fun child adapter => child.2.HasAdapter child.1 adapter)
      (nodes.filter (·.2.isBound)) adapters) :
    Forall₂ (fun owner adapter => Adapter.IsOf adapter owner)
      ((typeOwners nodes).filter (·.2.external.isSome)) adapters := by
  induction nodes generalizing adapters with
  | nil =>
    cases h
    exact .nil
  | cons child rest ih =>
    obtain ⟨name, node⟩ := child
    have hsplit : typeOwners ((name, node) :: rest) =
        (node.typeOwner?.map fun body => (name, body)).toList ++ typeOwners rest := by
      rw [typeOwners, List.filterMap_cons]
      cases node.typeOwner? <;> rfl
    rw [hsplit, List.filter_append]
    by_cases hbound : node.isBound = true
    · rw [List.filter_cons_of_pos (by exact hbound)] at h
      cases h with
      | cons hadapter hrest =>
        obtain ⟨body, howner, hisOf⟩ := hadapter.isOf
        have hexternal : body.external.isSome = true :=
          Option.isSome_iff_exists.mpr ⟨_, hisOf.external_eq⟩
        rw [howner, Option.map_some, Option.toList_some, List.filter_cons_of_pos (by exact hexternal)]
        exact .cons hisOf (ih hrest)
    · rw [List.filter_cons_of_neg (by exact hbound)] at h
      have hnone : ((node.typeOwner?.map fun body => (name, body)).toList.filter
          (·.2.external.isSome)) = [] := by
        cases howner : node.typeOwner? with
        | none => rfl
        | some body =>
          obtain ⟨hobject, -⟩ := Option.filter_eq_some_iff.mp howner
          have hexternal : body.external.isSome = false := by
            cases hexternal : body.external with
            | none => rfl
            | some external => exact absurd (Node.isBound_iff.mpr ⟨_, _, hobject, hexternal⟩) hbound
          rw [Option.map_some, Option.toList_some, List.filter_cons_of_neg (by simp [hexternal])]
          rfl
      rw [hnone, List.nil_append]
      exact ih h

/-! ### Places of bound objects -/

theorem not_lex_self : ∀ steps : List Step, ¬ List.Lex Step.Before steps steps
  | [], h => nomatch h
  | step :: steps, h => by
    cases h with
    | rel hstep => cases step <;> exact String.lt_irrefl _ hstep
    | cons h => exact not_lex_self steps h

namespace Node

/-- Steps lead to nodes of the tree. -/
theorem LeadsTo.mem_walk {steps : List Step} {start target : String × Node}
    (h : LeadsTo steps start target) : target ∈ start.2.walk start.1 := by
  induction h with
  | here node =>
    rw [walk_eq]
    exact List.mem_cons_self
  | down hobject hstep _ ih =>
    rw [walk_eq, children_eq hobject]
    exact List.mem_cons_of_mem _
      (walk_subset_walkAll (NestedObject.mem_children_of_mem_steps hstep) ih)

/-- One step more at the end. -/
theorem LeadsTo.snoc {steps : List Step} {start middle target : String × Node} {step : Step}
    {object : NestedObject Node} (h : LeadsTo steps start middle)
    (hobject : middle.2.object? = some object) (hstep : (step, target) ∈ object.steps) :
    LeadsTo (steps ++ [step]) start target := by
  induction h with
  | here node => exact .down hobject hstep (.here _)
  | down hparent hfirst _ ih => exact .down hparent hfirst (ih hobject)

/-- The places in a node's tree of the objects that are bound. -/
def boundPlaces (name : String) (node : Node) : List OwnerPlace :=
  (node.places name).filter (·.owner.2.external.isSome)

/-- No place is listed twice. -/
theorem Ordered.boundPlaces_nodup {node : Node} (h : node.Ordered) (name : String) :
    ((node.boundPlaces name).map (·.steps)).Nodup := by
  rw [List.Nodup, List.pairwise_map]
  refine ((h.places_pairwise name).filter _).imp ?_
  intro a b hbefore heq
  rw [OwnerPlace.Before, heq] at hbefore
  exact not_lex_self _ hbefore

variable {name text : String} {node : Node}

/-- The adapters of a bound node, one for each bound node of its walk. -/
theorem exists_adapters (h : node.adapters name = .ok text) (hbound : node.isBound = true) :
    ∃ adapters : List Adapter,
      text = String.join (adapters.map fun adapter => AdapterText.print adapter.texts) ∧
      Forall₂ (fun child adapter => child.2.HasAdapter child.1 adapter)
        ((node.walk name).filter (·.2.isBound)) adapters := by
  rw [adapters_eq hbound, preorder_eq, map_eq_ok] at h
  obtain ⟨texts, htexts, rfl⟩ := h
  have hall := forall₂_imp_of_mem (mapM_eq_ok.mp htexts) fun child text hchild hown =>
    (ownAdapters_eq_ok (List.mem_filter.mp hchild).2).mp hown
  clear htexts
  generalize (node.walk name).filter (·.2.isBound) = nodes at hall ⊢
  induction hall with
  | nil => exact ⟨[], rfl, .nil⟩
  | cons hadapter _ ih =>
    obtain ⟨adapters, hjoin, hrest⟩ := ih
    obtain ⟨adapter, hhas, hrender⟩ := hadapter
    obtain rfl := Except.ok.inj (adapter.render_eq.symm.trans hrender)
    refine ⟨adapter :: adapters, ?_, .cons hhas hrest⟩
    rw [String.join_cons, hjoin, List.map_cons, String.join_cons]

/-- Places and adapters side by side: each place of a bound object has its own adapters. -/
theorem exists_rendered (h : node.adapters name = .ok text) (hbound : node.isBound = true) :
    ∃ rendered : List (OwnerPlace × Adapter),
      text = String.join (rendered.map fun r => AdapterText.print r.2.texts) ∧
      rendered.map (·.1) = node.boundPlaces name ∧ ∀ r ∈ rendered, r.2.IsOf r.1.owner := by
  obtain ⟨adapters, htext, hwalk⟩ := exists_adapters h hbound
  have howners := forall₂_boundOwners hwalk
  rw [← owner_places, List.filter_map, List.forall₂_map_left_iff, List.forall₂_iff_zip] at howners
  obtain ⟨hlength, hall⟩ := howners
  have hplaces : ((node.boundPlaces name).zip adapters).map Prod.fst = node.boundPlaces name :=
    List.map_fst_zip (Nat.le_of_eq hlength)
  have hadapters : ((node.boundPlaces name).zip adapters).map Prod.snd = adapters :=
    List.map_snd_zip (Nat.le_of_eq hlength.symm)
  refine ⟨(node.boundPlaces name).zip adapters, ?_, hplaces, fun r hr => hall hr⟩
  conv_lhs => rw [htext, ← hadapters, List.map_map]
  rfl

/-- Where adapters are generated, the places that are listed are those of all bound objects. -/
theorem mem_boundPlaces_iff (h : node.adapters name = .ok text) (hbound : node.isBound = true)
    {steps : List Step} {key : String} {object : NestedObject Node} :
    ⟨steps, key, object⟩ ∈ node.boundPlaces name ↔
      (∃ target, LeadsTo steps (name, node) (key, target) ∧ target.object? = some object) ∧
        object.external.isSome = true := by
  rw [boundPlaces, List.mem_filter]
  constructor
  · rintro ⟨hplace, hexternal⟩
    obtain ⟨target, hleads, hobject, -⟩ := leadsTo_of_mem_places hplace
    exact ⟨⟨target, hleads, hobject⟩, hexternal⟩
  · rintro ⟨⟨target, hleads, hobject⟩, hexternal⟩
    obtain ⟨external, hsome⟩ := Option.isSome_iff_exists.mp hexternal
    -- a custom type would have been refused
    obtain ⟨adapters, -, hall⟩ := exists_adapters h hbound
    have hvisited : (key, target) ∈ (node.walk name).filter (·.2.isBound) :=
      List.mem_filter.mpr ⟨hleads.mem_walk, isBound_iff.mpr ⟨object, external, hobject, hsome⟩⟩
    obtain ⟨adapter, hadapter⟩ := exists_forall₂_iff.mp ⟨adapters, hall⟩ _ hvisited
    obtain ⟨body, howner, -⟩ := hadapter.isOf
    obtain ⟨hbody, hplain⟩ := Option.filter_eq_some_iff.mp howner
    obtain rfl : object = body := Option.some.inj (hobject.symm.trans hbody)
    exact ⟨mem_places_of_leadsTo hleads hobject (Option.isNone_iff_eq_none.mp hplain), hexternal⟩

end Node

/-! ### The theorem -/

/-- **Calls between adapters are closed.**  Where adapters are generated, the text is that of adapters
of bound objects, one after the other.  For each field that one of them converts by calls, there are
adapters of the object that stands one step below under the name of the field, and the methods that they
declare have the type and the suffix of the calls.  For a node that is bound the places are those of all
bound objects in its tree, and in a tree whose names are in order none is there twice; for other nodes
there is nothing. -/
theorem adapter_calls_closed {name text : String} {node : Node} (h : node.adapters name = .ok text) :
    ∃ rendered : List (OwnerPlace × Adapter),
      text = String.join (rendered.map fun r => AdapterText.print r.2.texts) ∧
      (∀ r ∈ rendered, r.2.IsOf r.1.owner) ∧
      (∀ caller ∈ rendered, ∀ c ∈ caller.2.fields, c.texts.object = true →
        ∃ callee ∈ rendered, callee.1.steps = caller.1.steps ++ [.attribute c.name] ∧
          callee.1.owner.1 = c.name ∧ callee.2.texts.Answers caller.2.texts c.texts) ∧
      (node.isBound = true →
        (∀ steps key object, ⟨steps, key, object⟩ ∈ rendered.map (·.1) ↔
          (∃ target, Node.LeadsTo steps (name, node) (key, target) ∧ target.object? = some object) ∧
            object.external.isSome = true) ∧
        (node.Ordered → (rendered.map (·.1.steps)).Nodup)) ∧
      (node.isBound = false → rendered = []) := by
  by_cases hbound : node.isBound = true
  · obtain ⟨rendered, htext, hplaces, hall⟩ := Node.exists_rendered h hbound
    refine ⟨rendered, htext, hall, ?calls, fun _ => ⟨fun steps key object => ?places, ?once⟩,
      fun hnot => absurd hbound (by simp [hnot])⟩
    case calls =>
      rintro ⟨place, adapter⟩ hcaller c hc hobject
      -- the conversion is that of an attribute, which stands one step below
      obtain ⟨child, hchild, hconversion⟩ := exists_partner (hall _ hcaller).fields hc
      obtain ⟨body, external, hbody, hexternal, hplain, rfl⟩ :=
        Node.exists_object_of_conversion hconversion hobject
      have hplace : place ∈ node.boundPlaces name := hplaces ▸ List.mem_map_of_mem hcaller
      obtain ⟨target, hleads, htarget, -⟩ :=
        Node.leadsTo_of_mem_places (List.mem_filter.mp hplace).1
      have hstep : (Step.attribute child.1, child) ∈ place.owner.2.steps :=
        List.mem_append_left _ (List.mem_map.mpr ⟨child, hchild, rfl⟩)
      have hbelow : ⟨place.steps ++ [.attribute child.1], child.1, body⟩ ∈ node.boundPlaces name :=
        List.mem_filter.mpr ⟨Node.mem_places_of_leadsTo (hleads.snoc htarget hstep) hbody hplain,
          Option.isSome_iff_exists.mpr ⟨external, hexternal⟩⟩
      rw [← hplaces] at hbelow
      obtain ⟨⟨below, callee⟩, hcallee, rfl⟩ := List.mem_map.mp hbelow
      have hisOf := hall _ hcallee
      refine ⟨_, hcallee, rfl, rfl, AdapterText.answers (List.mem_map_of_mem hc) hobject ?_ ?_⟩
      · exact congrArg Name.pascal hisOf.name_eq
      · exact congrArg ExternalType.suffix (Option.some.inj (hisOf.external_eq.symm.trans hexternal))
    case places =>
      rw [hplaces]
      exact Node.mem_boundPlaces_iff h hbound
    case once =>
      intro hordered
      have hnodup := hordered.boundPlaces_nodup name
      rwa [← hplaces, List.map_map] at hnodup
  · rw [Node.adapters_of_unbound (Bool.not_eq_true _ ▸ hbound)] at h
    refine ⟨[], (Except.ok.inj h).symm, ?_, ?_, fun hyes => absurd hyes hbound, fun _ => rfl⟩
    · exact fun r hr => absurd hr List.not_mem_nil
    · exact fun r hr => absurd hr List.not_mem_nil

/-- A bound object with two bound objects in it, one of which has another in turn; some are converted
by value and some by pointer. -/
def boundChain : Node :=
  let facets (kind : ValueKind) : NodeFacets :=
    { planModifiers := ⟨kind, []⟩, validators := ⟨kind, []⟩ }
  .nested .singleBlock (facets .object)
    { external := some { type := "*api.Rule" }
      attributes := [
        ("alias", .nested .singleAttribute (facets .object)
          { external := some { type := "*api.Alias" } }),
        ("target", .nested .singleAttribute (facets .object)
          { external := some { type := "api.Target" }
            attributes := [
              ("owner", .nested .singleAttribute (facets .object)
                { external := some { type := "*api.Owner" } }),
              ("port", .scalar .int64 (facets (.scalar .int64)))] })] }

theorem boundChain_adaptable : boundChain.Adaptable := by
  simp [boundChain, Node.Adaptable, ConvertibleChildren, Node.kind, NestedKind.isSingle]

/-- The target has adapters in the chain, and those of its owner answer its calls. -/
theorem adapter_calls_closed_boundChain :
    ∃ (text : String) (rendered : List (OwnerPlace × Adapter)), boundChain.adapters "rule" = .ok text ∧
      text = String.join (rendered.map fun r => AdapterText.print r.2.texts) ∧
      ∃ caller ∈ rendered, ∃ callee ∈ rendered,
        caller.1.steps = [.attribute "target"] ∧
        callee.1.steps = [.attribute "target", .attribute "owner"] ∧
        callee.2.texts.Answers caller.2.texts (Conversion.mk "owner" (.object "ApiOwner")).texts := by
  have hbound : boundChain.isBound = true := boundChain_adaptable.isBound
  obtain ⟨text, htext⟩ := (Node.exists_adapters_iff hbound).mpr boundChain_adaptable
  obtain ⟨rendered, hprint, hall, hcalls, hplaces, -⟩ := adapter_calls_closed htext
  obtain ⟨hmem, -⟩ := hplaces hbound
  obtain ⟨caller, hcaller, hplace⟩ := List.mem_map.mp ((hmem [.attribute "target"] "target" _).mpr
    ⟨⟨_, .down rfl (.tail _ (.head _)) (.here _), rfl⟩, rfl⟩)
  -- the first field of the target is its owner
  have hfields := (hall caller hcaller).fields
  rw [hplace] at hfields
  obtain ⟨c, rest, howner, -, hfields⟩ := List.forall₂_cons_left_iff.mp hfields
  obtain rfl : ⟨"owner", .object "ApiOwner"⟩ = c := by
    have hsuffix : ExternalType.suffix { type := "*api.Owner" } = "ApiOwner" := by decide +kernel
    refine Except.ok.inj (Eq.trans (Eq.symm (Node.conversion_eq_ok.mpr (.inr ?_))) howner)
    exact ⟨_, _, _, rfl, rfl, rfl, by rw [hsuffix]⟩
  obtain ⟨callee, hcallee, hsteps, -, hanswers⟩ :=
    hcalls caller hcaller _ (hfields ▸ List.mem_cons_self) rfl
  exact ⟨text, rendered, htext, hprint, caller, hcaller, callee, hcallee, by rw [hplace],
    by rw [hsteps, hplace]; rfl, hanswers⟩

end ProviderCode
