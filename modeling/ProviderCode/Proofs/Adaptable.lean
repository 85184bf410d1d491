import ProviderCode.Proofs.Preorder
import ProviderCode.Proofs.Rendering
import ProviderCode.Proofs.Results

/-!
# Nodes with adapters

For which nodes adapters can be generated.  A bound node has to be a single object without a custom
type and without blocks, and each of its attributes a scalar or a single object of the same sort.
Everything else that is bound is refused.

* `Node.adaptersOf_eq`: going through a list of bound nodes is going through their walks and
  rendering the adapters of every bound node there, the first refusal being the error.
* `Node.adaptable_iff`: a node is adaptable if it is bound and none of these is refused.
-/

namespace ProviderCode

open List (Forall₂)

/-! ### Adaptable nodes -/

mutual

/-- A bound single object without a custom type and without blocks, all of whose attributes can be
converted. -/
def Node.Adaptable : Node → Prop
  | .nested kind _ ⟨external, customType, _, _, attributes, blocks⟩ =>
    kind.isSingle = true ∧ external.isSome = true ∧ customType = none ∧ blocks = [] ∧
      ConvertibleChildren attributes
  | .scalar _ _ | .collection _ _ _ | .object _ _ => False
termination_by structural node => node

/-- Attributes that are scalars or adaptable single objects. -/
def ConvertibleChildren : Children Node → Prop
  | [] => True
  | (_, node) :: rest =>
    ((∃ type, node.kind = .scalar type) ∨ node.kind = .nested .singleAttribute ∧ node.Adaptable) ∧
      ConvertibleChildren rest
termination_by structural children => children

end

/-- What the adapters of one bound node are made of. -/
structure Adapter where
  name : String
  external : ExternalType
  fields : List Conversion

/-- The text of one pair of adapters. -/
def Adapter.render (adapter : Adapter) : Generated String :=
  Template.adapters.render adapter.name (adapter.external.context adapter.name adapter.fields)

namespace Node

/-- The adapters of a bound node, without those of the nodes below it. -/
def ownAdapters (name : String) (node : Node) : Generated String :=
  match node.object? with
  | none => .ok ""
  | some body =>
    match body.external with
    | none => .ok ""
    | some external => do
      let fields ← conversions name node.kind body
      Adapter.render ⟨name, external, fields⟩

/-- The adapters that a bound node has. -/
structure HasAdapter (name : String) (node : Node) (adapter : Adapter) : Prop where
  name_eq : adapter.name = name
  object : ∃ body, node.object? = some body ∧ body.external = some adapter.external ∧
    conversions name node.kind body = .ok adapter.fields

/-! ### Conversions -/

theorem conversion_eq_ok {name : String} {node : Node} {c : Conversion} :
    node.conversion name = .ok c ↔
      (∃ type f, node = .scalar type f ∧ c = ⟨name, .scalar type (f.customType.map (·.valueType))⟩) ∨
      ∃ f body external, node = .nested .singleAttribute f body ∧ body.external = some external ∧
        body.customType = none ∧ c = ⟨name, .object external.suffix⟩ := by
  constructor
  · intro h
    unfold conversion at h
    dsimp only at h
    split at h
    · next type f => exact .inl ⟨type, f, rfl, (Except.ok.inj h).symm⟩
    · next f body =>
      split at h
      · next external hexternal hcustom =>
        exact .inr ⟨f, body, external, rfl, hexternal, hcustom, (Except.ok.inj h).symm⟩
      · cases h
    · cases h
  · rintro (⟨type, f, rfl, rfl⟩ | ⟨f, body, external, rfl, hexternal, hcustom, rfl⟩)
    · rfl
    · simp only [conversion, hexternal, hcustom]

theorem conversion_error {name : String} {node : Node} {e : GenerationError}
    (h : node.conversion name = .error e) : e.isUnsupported = true := by
  unfold conversion at h
  dsimp only at h
  split at h
  · cases h
  · split at h
    · cases h
    · cases h
      rfl
  · cases h
    rfl

/-- The fields of a node are converted if it is a single object without a custom type and without
blocks, and all its attributes are converted. -/
theorem conversions_eq_ok {name : String} {kind : NodeKind} {body : NestedObject Node}
    {fields : List Conversion} :
    conversions name kind body = .ok fields ↔
      kind.isSingle = true ∧ body.customType = none ∧ body.blocks = [] ∧
        Forall₂ (fun child c => child.2.conversion child.1 = .ok c) body.attributes fields := by
  rw [conversions, NestedObject.generatesType]
  cases kind.isSingle with
  | false => simp
  | true =>
    cases body.customType with
    | some custom => simp
    | none =>
      cases body.blocks with
      | cons block blocks => simp
      | nil => simp [mapM_eq_ok]

theorem conversions_error {name : String} {kind : NodeKind} {body : NestedObject Node}
    {e : GenerationError} (h : conversions name kind body = .error e) : e.isUnsupported = true := by
  unfold conversions at h
  split at h
  · cases h
    rfl
  · split at h
    · cases h
      rfl
    · split at h
      · cases h
        rfl
      · obtain ⟨child, -, hchild⟩ := mapM_eq_error h
        exact conversion_error hchild

/-! ### One bound node -/

theorem isBound_iff {node : Node} : node.isBound = true ↔
    ∃ body external, node.object? = some body ∧ body.external = some external := by
  rw [isBound]
  cases node.object? with
  | none => simp
  | some body => simp [Option.isSome_iff_exists]

/-- A bound node has adapters, or its fields cannot be converted. -/
theorem ownAdapters_eq_ok {name text : String} {node : Node} (hbound : node.isBound = true) :
    node.ownAdapters name = .ok text ↔
      ∃ adapter, node.HasAdapter name adapter ∧ adapter.render = .ok text := by
  obtain ⟨body, external, hbody, hexternal⟩ := isBound_iff.mp hbound
  simp only [ownAdapters, hbody, hexternal]
  rw [bind_eq_ok]
  constructor
  · rintro ⟨fields, hfields, hrender⟩
    exact ⟨⟨name, external, fields⟩, ⟨rfl, body, hbody, hexternal, hfields⟩, hrender⟩
  · rintro ⟨⟨_, _, fields⟩, ⟨rfl, body', hbody', hexternal', hfields⟩, hrender⟩
    cases hbody.symm.trans hbody'
    cases hexternal.symm.trans hexternal'
    exact ⟨fields, hfields, hrender⟩

/-- The adapters of one node fail only where its fields cannot be converted. -/
theorem ownAdapters_error {name : String} {node : Node} {e : GenerationError}
    (h : node.ownAdapters name = .error e) : e.isUnsupported = true := by
  unfold ownAdapters at h
  split at h
  · cases h
  · next body hbody =>
    split at h
    · cases h
    · next external hexternal =>
      cases hfields : conversions name node.kind body with
      | error e' =>
        rw [hfields] at h
        cases h
        exact conversions_error hfields
      | ok fields =>
        -- rendering always succeeds
        obtain ⟨text, htext, -⟩ := external.render_adapters_ok name fields
        rw [hfields] at h
        change Adapter.render ⟨name, external, fields⟩ = _ at h
        rw [Adapter.render, htext] at h
        cases h

/-- What the adapters of one node need. -/
theorem exists_ownAdapters_iff {name : String} {kind : NestedKind} {f : NodeFacets}
    {body : NestedObject Node} (hbound : body.external.isSome = true) :
    (∃ text, (Node.nested kind f body).ownAdapters name = .ok text) ↔
      kind.isSingle = true ∧ body.customType = none ∧ body.blocks = [] ∧
        ∀ child ∈ body.attributes, ∃ c, child.2.conversion child.1 = .ok c := by
  have hexists : (∃ text, (Node.nested kind f body).ownAdapters name = .ok text) ↔
      ∃ fields, conversions name (.nested kind) body = .ok fields := by
    obtain ⟨external, hexternal⟩ := Option.isSome_iff_exists.mp hbound
    simp only [ownAdapters, object?, hexternal, bind_eq_ok]
    constructor
    · rintro ⟨text, fields, hfields, -⟩
      exact ⟨fields, hfields⟩
    · rintro ⟨fields, hfields⟩
      obtain ⟨text, htext, -⟩ := external.render_adapters_ok name fields
      exact ⟨text, fields, hfields, htext⟩
  simp only [hexists, conversions_eq_ok, exists_and_left]
  refine and_congr_right' (and_congr_right' (and_congr_right' ?_))
  exact exists_forall₂_iff

/-! ### The list of bound nodes -/

/-- Of the attributes of a node whose fields are converted, those that are not bound have no bound
nodes below them. -/
theorem filter_walkAll_boundAttributes {name : String} {kind : NodeKind} {body : NestedObject Node}
    {fields : List Conversion} (h : conversions name kind body = .ok fields) :
    (walkAll (boundAttributes body)).filter (·.2.isBound) =
      (walkAll body.children).filter (·.2.isBound) := by
  obtain ⟨-, -, hblocks, hall⟩ := conversions_eq_ok.mp h
  rw [NestedObject.children, hblocks, List.append_nil, boundAttributes]
  clear h hblocks
  generalize body.attributes = children at hall
  induction hall with
  | nil => rfl
  | @cons child c rest _ hc _ ih =>
    obtain ⟨key, node⟩ := child
    rw [walkAll_cons, List.filter_append, ← ih]
    rcases conversion_eq_ok.mp hc with ⟨type, f, rfl, -⟩ | ⟨f, object, external, rfl, hext, -, -⟩
    · rfl
    · have hbound : (Node.nested .singleAttribute f object).isBound = true :=
        isBound_iff.mpr ⟨object, external, rfl, hext⟩
      rw [List.filter_cons, if_pos hbound, walkAll_cons, List.filter_append]

/-- **The list of bound nodes.**  Going through bound nodes is going through their walks one after
the other, and giving the adapters of every bound node there. -/
theorem adaptersOf_eq {done : Array String} {pending : Children Node}
    (h : ∀ child ∈ pending, child.2.isBound = true) :
    adaptersOf done pending =
      (fun texts => done ++ texts.toArray) <$>
        ((walkAll pending).filter (·.2.isBound)).mapM fun child => child.2.ownAdapters child.1 := by
  fun_induction adaptersOf done pending with
  | case1 done => exact congrArg Except.ok Array.append_empty.symm
  | case2 done name node pending hobject ih =>
    obtain ⟨body, external, hbody, -⟩ := isBound_iff.mp (h _ List.mem_cons_self)
    rw [hobject] at hbody
    cases hbody
  | case3 done name node pending body hobject hexternal ih =>
    obtain ⟨body', external, hbody, hsome⟩ := isBound_iff.mp (h _ List.mem_cons_self)
    rw [hobject] at hbody
    cases hbody
    rw [hexternal] at hsome
    cases hsome
  | case4 done name node pending body hobject external hexternal ih =>
    have hown : node.ownAdapters name =
        conversions name node.kind body >>= fun fields => Adapter.render ⟨name, external, fields⟩ := by
      simp only [ownAdapters, hobject, hexternal]
    have hself : node.isBound = true := h _ List.mem_cons_self
    rw [walkAll_cons, walk_eq, List.cons_append, List.filter_cons, if_pos hself, List.mapM_cons,
      hown]
    cases hfields : conversions name node.kind body with
    | error e => rfl
    | ok fields =>
      obtain ⟨text, htext, -⟩ := external.render_adapters_ok name fields
      -- the bound attributes take the place of the node, and give what its walk gives
      have hwalks : (walkAll (boundAttributes body ++ pending)).filter (·.2.isBound) =
          (walkAll node.children ++ walkAll pending).filter (·.2.isBound) := by
        rw [walkAll_append, List.filter_append, List.filter_append,
          filter_walkAll_boundAttributes hfields, children_eq hobject]
      have hbound : ∀ child ∈ boundAttributes body ++ pending, child.2.isBound = true :=
        fun child hchild => by
          rcases List.mem_append.mp hchild with hchild | hchild
          · exact (List.mem_filter.mp hchild).2
          · exact h _ (List.mem_cons_of_mem _ hchild)
      have hrest := ih text hbound
      rw [hwalks] at hrest
      change (Template.adapters.render _ _ >>= _) = _ <$> (Adapter.render _ >>= _)
      rw [Adapter.render, htext]
      change adaptersOf (done.push text) _ = _ <$> ((_ : Generated (List String)) >>= _)
      rw [hrest]
      cases List.mapM (fun child => child.2.ownAdapters child.1)
          ((walkAll node.children ++ walkAll pending).filter (·.2.isBound)) with
      | error e => rfl
      | ok texts =>
        refine congrArg Except.ok ?_
        simp

/-- The adapters of a bound node are those of the bound nodes of its walk. -/
theorem adapters_eq {name : String} {node : Node} (h : node.isBound = true) :
    node.adapters name = String.join <$>
      ((node.preorder name).filter (·.2.isBound)).mapM fun child => child.2.ownAdapters child.1 := by
  rw [adapters, adaptersOf_eq fun child hchild => List.mem_singleton.mp hchild ▸ h, walkAll_cons,
    walkAll_nil, List.append_nil, preorder_eq]
  cases ((node.walk name).filter (·.2.isBound)).mapM fun child => child.2.ownAdapters child.1 with
  | error e => rfl
  | ok texts => exact congrArg (fun list => Except.ok (String.join list)) (by simp)

/-- Nodes that are not bound have no adapters. -/
theorem adapters_of_unbound {name : String} {node : Node} (h : node.isBound = false) :
    node.adapters name = .ok "" := by
  have hpending : adaptersOf #[] [(name, node)] = .ok #[] := by
    rw [adaptersOf]
    split
    · rw [adaptersOf]
    · next body hbody =>
      split
      · rw [adaptersOf]
      · next external hexternal =>
        rw [isBound_iff.mpr ⟨body, external, hbody, hexternal⟩] at h
        cases h
  rw [adapters, hpending]
  rfl

/-! ### Adaptable nodes are those with adapters -/

theorem ownAdapters_of_unbound {name : String} {node : Node} (h : node.isBound = false) :
    node.ownAdapters name = .ok "" := by
  unfold ownAdapters
  split
  · rfl
  · next body hbody =>
    split
    · rfl
    · next external hexternal =>
      rw [isBound_iff.mpr ⟨body, external, hbody, hexternal⟩] at h
      cases h

mutual

/-- A node is adaptable if it is bound and no node of its walk is refused. -/
theorem adaptable_iff {name : String} : ∀ {node : Node},
    node.Adaptable ↔ node.isBound = true ∧
      ∀ child ∈ node.walk name, ∃ text, child.2.ownAdapters child.1 = .ok text
  | .scalar _ _ | .collection _ _ _ | .object _ _ => by
    simp only [Adaptable, isBound, object?, Bool.false_eq_true, false_and]
  | .nested kind f ⟨external, customType, planModifiers, validators, as, bs⟩ => by
    simp only [Adaptable, isBound, object?, walk, List.forall_mem_cons]
    constructor
    · rintro ⟨hsingle, hbound, rfl, rfl, has⟩
      obtain ⟨hconverted, hwalk⟩ := convertibleChildren_iff.mp has
      refine ⟨hbound, (exists_ownAdapters_iff hbound).mpr ⟨hsingle, rfl, rfl, hconverted⟩, ?_⟩
      rw [walkAll_nil, List.append_nil]
      exact hwalk
    · rintro ⟨hbound, hown, hwalk⟩
      obtain ⟨hsingle, hcustom, hblocks, hconverted⟩ := (exists_ownAdapters_iff hbound).mp hown
      refine ⟨hsingle, hbound, hcustom, hblocks, convertibleChildren_iff.mpr ⟨hconverted, ?_⟩⟩
      exact fun child hchild => hwalk child (List.mem_append_left _ hchild)

theorem convertibleChildren_iff : ∀ {children : Children Node},
    ConvertibleChildren children ↔
      (∀ child ∈ children, ∃ c, child.2.conversion child.1 = .ok c) ∧
      ∀ child ∈ walkAll children, ∃ text, child.2.ownAdapters child.1 = .ok text
  | [] => by simp [ConvertibleChildren]
  | (name, node) :: rest => by
    have hiff : node.Adaptable ↔ node.isBound = true ∧
        ∀ child ∈ node.walk name, ∃ text, child.2.ownAdapters child.1 = .ok text := adaptable_iff
    have hnode : ((∃ type, node.kind = .scalar type) ∨
        node.kind = .nested .singleAttribute ∧ node.Adaptable) ↔
        (∃ c, node.conversion name = .ok c) ∧
          ∀ child ∈ node.walk name, ∃ text, child.2.ownAdapters child.1 = .ok text := by
      simp only [conversion_eq_ok]
      constructor
      · rintro (⟨type, hkind⟩ | ⟨hkind, hadaptable⟩)
        · cases node <;> cases hkind
          refine ⟨⟨_, .inl ⟨_, _, rfl, rfl⟩⟩, fun child hchild => ?_⟩
          obtain rfl := List.mem_singleton.mp hchild
          exact ⟨"", ownAdapters_of_unbound rfl⟩
        · refine ⟨?_, (hiff.mp hadaptable).2⟩
          cases node <;> cases hkind
          obtain ⟨-, hbound, hcustom, -⟩ := hadaptable
          obtain ⟨external, hexternal⟩ := Option.isSome_iff_exists.mp hbound
          exact ⟨_, .inr ⟨_, _, external, rfl, hexternal, hcustom, rfl⟩⟩
      · rintro ⟨⟨c, ⟨type, f, rfl, -⟩ | ⟨f, body, external, rfl, hexternal, -⟩⟩, hwalk⟩
        · exact .inl ⟨type, rfl⟩
        · exact .inr ⟨rfl, hiff.mpr ⟨isBound_iff.mpr ⟨body, external, rfl, hexternal⟩, hwalk⟩⟩
    simp only [ConvertibleChildren, walkAll_cons, List.forall_mem_cons, List.forall_mem_append,
      hnode, convertibleChildren_iff]
    exact and_and_and_comm

end

/-- Adapters are generated for a bound node exactly if it is adaptable. -/
theorem exists_adapters_iff {name : String} {node : Node} (h : node.isBound = true) :
    (∃ text, node.adapters name = .ok text) ↔ node.Adaptable := by
  have htexts : (∃ text, node.adapters name = .ok text) ↔
      ∀ child ∈ (node.walk name).filter (·.2.isBound), ∃ text,
        child.2.ownAdapters child.1 = .ok text := by
    rw [← exists_forall₂_iff, adapters_eq h, preorder_eq]
    simp only [map_eq_ok, mapM_eq_ok]
    constructor
    · rintro ⟨text, texts, htexts, -⟩
      exact ⟨texts, htexts⟩
    · rintro ⟨texts, htexts⟩
      exact ⟨_, texts, htexts, rfl⟩
  have hiff : node.Adaptable ↔ node.isBound = true ∧
      ∀ child ∈ node.walk name, ∃ text, child.2.ownAdapters child.1 = .ok text := adaptable_iff
  rw [htexts, hiff]
  constructor
  · intro hall
    refine ⟨h, fun child hchild => ?_⟩
    by_cases hbound : child.2.isBound = true
    · exact hall child (List.mem_filter.mpr ⟨hchild, hbound⟩)
    · exact ⟨"", ownAdapters_of_unbound (Bool.not_eq_true _ ▸ hbound)⟩
  · rintro ⟨-, hall⟩ child hchild
    exact hall child (List.mem_filter.mp hchild).1

theorem Adaptable.isBound {node : Node} (h : node.Adaptable) : node.isBound = true := by
  cases node with
  | nested kind f object => exact h.2.1
  | _ => exact h.elim

theorem adapters_error {name : String} {node : Node} {e : GenerationError}
    (h : node.adapters name = .error e) : e.isUnsupported = true := by
  by_cases hbound : node.isBound = true
  · rw [adapters_eq hbound] at h
    cases hall : ((node.preorder name).filter (·.2.isBound)).mapM fun child =>
        child.2.ownAdapters child.1 with
    | error e' =>
      rw [hall] at h
      cases h
      obtain ⟨child, -, hchild⟩ := mapM_eq_error hall
      exact ownAdapters_error hchild
    | ok texts =>
      rw [hall] at h
      cases h
  · rw [adapters_of_unbound (Bool.not_eq_true _ ▸ hbound)] at h
    cases h

end Node

/-- **Adapters.**  They are generated for leaves, for nodes that are not bound, and for adaptable
nodes.  For the first two there is nothing; for adaptable ones the text is that of the adapters of
all bound nodes in preorder, one after the other.  For all other nodes the error says that the node
is not supported. -/
theorem adapters_ok_iff_adaptable :
    (∀ (node : Node) (name : String), (∃ text, node.adapters name = .ok text) ↔
      node.object? = none ∨ node.isBound = false ∨ node.Adaptable) ∧
    (∀ (node : Node) (name : String), node.object? = none ∨ node.isBound = false →
      node.adapters name = .ok "") ∧
    (∀ (node : Node) (name : String), node.Adaptable →
      ∃ texts, node.adapters name = .ok (String.join texts) ∧
        Forall₂ (fun child text => ∃ adapter, child.2.HasAdapter child.1 adapter ∧
          adapter.render = .ok text) ((node.preorder name).filter (·.2.isBound)) texts) ∧
    ∀ (node : Node) (name : String),
      ¬ (node.object? = none ∨ node.isBound = false ∨ node.Adaptable) →
        ∃ e, node.adapters name = .error e ∧ e.isUnsupported = true := by
  have hleaf : ∀ node : Node, node.object? = none ∨ node.isBound = false → node.isBound = false := by
    rintro node (hnone | hbound)
    · simp only [Node.isBound, hnone]
    · exact hbound
  have hsuccess : ∀ (node : Node) (name : String), (∃ text, node.adapters name = .ok text) ↔
      node.object? = none ∨ node.isBound = false ∨ node.Adaptable := fun node name => by
    by_cases hbound : node.isBound = true
    · obtain ⟨body, external, hbody, -⟩ := Node.isBound_iff.mp hbound
      rw [Node.exists_adapters_iff hbound, hbody, hbound]
      simp
    · rw [Bool.not_eq_true] at hbound
      exact iff_of_true ⟨"", Node.adapters_of_unbound hbound⟩ (.inr (.inl hbound))
  refine ⟨hsuccess, fun node name h => Node.adapters_of_unbound (hleaf node h),
    fun node name h => ?_, fun node name h => ?_⟩
  · have hbound : node.isBound = true := h.isBound
    obtain ⟨text, htext⟩ := (Node.exists_adapters_iff hbound).mpr h
    have htexts := htext
    rw [Node.adapters_eq hbound, map_eq_ok] at htexts
    obtain ⟨texts, hall, rfl⟩ := htexts
    refine ⟨texts, htext, forall₂_imp_of_mem (mapM_eq_ok.mp hall) ?_⟩
    intro child text hchild hown
    exact (Node.ownAdapters_eq_ok (List.mem_filter.mp hchild).2).mp hown
  · cases hresult : node.adapters name with
    | ok text => exact absurd ((hsuccess node name).mp ⟨text, hresult⟩) h
    | error e => exact ⟨e, rfl, Node.adapters_error hresult⟩

/-- A list of objects that is bound. -/
def boundList : Node :=
  .nested (.attributes .list) { planModifiers := ⟨.object, []⟩, validators := ⟨.object, []⟩ }
    { external := some { type := "api.Item" } }

/-- A bound object with a bound object and a number in it. -/
def boundPair : Node :=
  let facets (kind : ValueKind) : NodeFacets :=
    { planModifiers := ⟨kind, []⟩, validators := ⟨kind, []⟩ }
  .nested .singleBlock (facets .object)
    { external := some { type := "*api.Rule" }
      attributes := [
        ("inner", .nested .singleAttribute (facets .object)
          { external := some { type := "api.Inner" } }),
        ("port", .scalar .int64 (facets (.scalar .int64)))] }

/-- The pair has two adapters, its number by itself has none, and the list is refused. -/
theorem adapters_ok_iff_adaptable_boundPair :
    (∃ texts, boundPair.adapters "rule" = .ok (String.join texts) ∧ texts.length = 2) ∧
    (∀ f, (Node.scalar .int64 f).adapters "port" = .ok "") ∧
    ∃ e, boundList.adapters "items" = .error e ∧ e.isUnsupported = true := by
  obtain ⟨-, hnothing, hadaptable, herror⟩ := adapters_ok_iff_adaptable
  have hpair : boundPair.Adaptable := by
    simp [boundPair, Node.Adaptable, ConvertibleChildren, Node.kind, NestedKind.isSingle]
  have hlist : ¬ (boundList.object? = none ∨ boundList.isBound = false ∨ boundList.Adaptable) := by
    simp [boundList, Node.object?, Node.isBound, Node.Adaptable, NestedKind.isSingle]
  obtain ⟨texts, htexts, hall⟩ := hadaptable boundPair "rule" hpair
  refine ⟨⟨texts, htexts, ?_⟩, fun f => hnothing _ _ (.inl rfl), herror _ _ hlist⟩
  rw [← hall.length_eq, Node.preorder_eq]
  rfl

end ProviderCode
