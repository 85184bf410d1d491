import Mathlib.Data.List.Perm.Basic
import Mathlib.Data.List.Sort
import ProviderCode.Proofs.BuiltNode
import ProviderCode.Proofs.NodeEquality
import ProviderCode.Proofs.Results
import ProviderCode.Resource.File

/-!
# Declaration order

The order in which the attributes and blocks of a specification are declared does not matter.  Of
two specifications that differ in it only, at any number of levels, both can be built or neither.
The trees are the same one, and so is all that is generated from them.

The first fault that is found does depend on the order.  That there is none does not: it is a
property of the declared names, which have to be different, and of each child by itself.
-/

namespace ProviderCode

open List (Forall₂ Perm)

/-! ### Specifications in another order -/

/-- Attributes that differ only in the order in which attributes are declared, at any level. -/
inductive Attribute.Reordered : Attribute → Attribute → Prop
  | leaf (name : String) (leaf : Leaf) : Reordered (.mk name (.leaf leaf)) (.mk name (.leaf leaf))
  | bare (name : String) (shape : Shape) (f : AttributeFacets Empty) :
    Reordered (.mk name (.nested shape f none)) (.mk name (.nested shape f none))
  | nested {name : String} {shape : Shape} {f : AttributeFacets Empty} {o : ObjectFacets}
    {as mid as' : List Attribute} (members : Forall₂ Reordered as mid) (order : Perm mid as') :
    Reordered (.mk name (.nested shape f (some ⟨o, as⟩)))
      (.mk name (.nested shape f (some ⟨o, as'⟩)))
  | single {name : String} {f : AttributeFacets Empty} {external : Option ExternalType}
    {as mid as' : List Attribute} (members : Forall₂ Reordered as mid) (order : Perm mid as') :
    Reordered (.mk name (.single f external as)) (.mk name (.single f external as'))

/-- Attributes of one object, each with its counterpart, in any order. -/
def AttributesReordered (as as' : List Attribute) : Prop :=
  ∃ mid, Forall₂ Attribute.Reordered as mid ∧ Perm mid as'

/-- Blocks that differ only in the order in which attributes and blocks are declared, at any
level. -/
inductive Block.Reordered : Block → Block → Prop
  | bare (name : String) (shape : BlockShape) (f : BlockFacets) :
    Reordered (.mk name (.nested shape f none)) (.mk name (.nested shape f none))
  | nested {name : String} {shape : BlockShape} {f : BlockFacets} {o : ObjectFacets}
    {as as' : List Attribute} {bs mid bs' : List Block} (attributes : AttributesReordered as as')
    (members : Forall₂ Reordered bs mid) (order : Perm mid bs') :
    Reordered (.mk name (.nested shape f (some ⟨o, as, bs⟩)))
      (.mk name (.nested shape f (some ⟨o, as', bs'⟩)))
  | single {name : String} {f : BlockFacets} {external : Option ExternalType}
    {as as' : List Attribute} {bs mid bs' : List Block} (attributes : AttributesReordered as as')
    (members : Forall₂ Reordered bs mid) (order : Perm mid bs') :
    Reordered (.mk name (.single f external as bs)) (.mk name (.single f external as' bs'))

/-- Blocks of one object, each with its counterpart, in any order. -/
def BlocksReordered (bs bs' : List Block) : Prop :=
  ∃ mid, Forall₂ Block.Reordered bs mid ∧ Perm mid bs'

/-- Schemas that differ only in the order of declarations, at any level. -/
structure Schema.Reordered (s s' : Schema) : Prop where
  attributes : AttributesReordered s.attributes s'.attributes
  blocks : BlocksReordered s.blocks s'.blocks
  description_eq : s.description = s'.description
  deprecation_eq : s.deprecation = s'.deprecation

/-- Resources that differ only in the order of declarations, at any level. -/
structure Resource.Reordered (r r' : Resource) : Prop where
  name_eq : r.name = r'.name
  schema : Option.Rel Schema.Reordered r.schema r'.schema

theorem Attribute.Reordered.name_eq {a a' : Attribute} (h : a.Reordered a') : a.name = a'.name := by
  cases h <;> rfl

theorem Block.Reordered.name_eq {b b' : Block} (h : b.Reordered b') : b.name = b'.name := by
  cases h <;> rfl

/-! ### Back to the first order -/

/-- Members with counterparts in any order are counterparts of these. -/
theorem exists_forall₂_symm {α : Type} {R : α → α → Prop} {as mid bs : List α}
    (h : Forall₂ R as mid) (hperm : Perm mid bs) (himp : ∀ a b, a ∈ as → R a b → R b a) :
    ∃ mid', Forall₂ R bs mid' ∧ Perm mid' as := by
  have hflip : Forall₂ R mid as := (forall₂_imp_of_mem h himp).flip
  obtain ⟨mid', hmid, hperm'⟩ := List.perm_comp_forall₂ hperm.symm hflip
  exact ⟨mid', hmid, hperm'⟩

theorem Attribute.Reordered.symm {a a' : Attribute} (h : a.Reordered a') : a'.Reordered a := by
  cases h with
  | leaf name leaf => exact .leaf name leaf
  | bare name shape f => exact .bare name shape f
  | @nested name shape f o as mid as' members order =>
    have hsymm : ∀ c c', c ∈ as → c.Reordered c' → c'.Reordered c := fun c c' hc h => by
      have hlt := Attribute.steps_attribute_lt (a := .mk name (.nested shape f (some ⟨o, as⟩))) hc
      exact Attribute.Reordered.symm h
    obtain ⟨mid', members', order'⟩ := exists_forall₂_symm members order hsymm
    exact .nested members' order'
  | @single name f external as mid as' members order =>
    have hsymm : ∀ c c', c ∈ as → c.Reordered c' → c'.Reordered c := fun c c' hc h => by
      have hlt := Attribute.steps_attribute_lt (a := .mk name (.single f external as)) hc
      exact Attribute.Reordered.symm h
    obtain ⟨mid', members', order'⟩ := exists_forall₂_symm members order hsymm
    exact .single members' order'
termination_by a.steps

theorem AttributesReordered.symm {as as' : List Attribute} (h : AttributesReordered as as') :
    AttributesReordered as' as := by
  obtain ⟨mid, members, order⟩ := h
  exact exists_forall₂_symm members order fun _ _ _ => Attribute.Reordered.symm

theorem Block.Reordered.symm {b b' : Block} (h : b.Reordered b') : b'.Reordered b := by
  cases h with
  | bare name shape f => exact .bare name shape f
  | @nested name shape f o as as' bs mid bs' attributes members order =>
    have hsymm : ∀ c c', c ∈ bs → c.Reordered c' → c'.Reordered c := fun c c' hc h => by
      have hlt := Block.steps_block_lt (b := .mk name (.nested shape f (some ⟨o, as, bs⟩))) hc
      exact Block.Reordered.symm h
    obtain ⟨mid', members', order'⟩ := exists_forall₂_symm members order hsymm
    exact .nested attributes.symm members' order'
  | @single name f external as as' bs mid bs' attributes members order =>
    have hsymm : ∀ c c', c ∈ bs → c.Reordered c' → c'.Reordered c := fun c c' hc h => by
      have hlt := Block.steps_block_lt (b := .mk name (.single f external as bs)) hc
      exact Block.Reordered.symm h
    obtain ⟨mid', members', order'⟩ := exists_forall₂_symm members order hsymm
    exact .single attributes.symm members' order'
termination_by b.steps

theorem BlocksReordered.symm {bs bs' : List Block} (h : BlocksReordered bs bs') :
    BlocksReordered bs' bs := by
  obtain ⟨mid, members, order⟩ := h
  exact exists_forall₂_symm members order fun _ _ _ => Block.Reordered.symm

theorem Schema.Reordered.symm {s s' : Schema} (h : s.Reordered s') : s'.Reordered s :=
  ⟨h.attributes.symm, h.blocks.symm, h.description_eq.symm, h.deprecation_eq.symm⟩

theorem Resource.Reordered.symm {r r' : Resource} (h : r.Reordered r') : r'.Reordered r := by
  refine ⟨h.name_eq.symm, ?_⟩
  have hschema := h.schema
  generalize r.schema = s, r'.schema = s' at hschema
  cases hschema with
  | none => exact .none
  | some hs => exact .some hs.symm

/-! ### Children in another order -/

section All

variable {α : Type} {name : α → String} {construct : α → Generated Node} {owner : String}

/-- Children that can be constructed, under names that are new and different, are constructed. -/
theorem constructAll_of_forall₂ {as : List α} {children : Children Node}
    (h : Forall₂ (fun a child => child.1 = name a ∧ construct a = .ok child.2) as children) :
    ∀ {earlier : List String}, (∀ n ∈ earlier, n ∉ children.keys) → children.keys.Nodup →
      constructAll name construct owner earlier as = .ok children := by
  induction h with
  | nil => exact fun _ _ => rfl
  | @cons a child as rest hd _ ih =>
    intro earlier hnew hnodup
    rw [Children.keys_cons, hd.1] at hnew hnodup
    rw [List.nodup_cons] at hnodup
    have hname : name a ∉ earlier := fun hin => hnew _ hin List.mem_cons_self
    have hlater : ∀ n ∈ name a :: earlier, n ∉ Children.keys rest := fun n hn => by
      rcases List.mem_cons.mp hn with rfl | hn
      · exact hnodup.1
      · exact fun hin => hnew n hn (List.mem_cons_of_mem _ hin)
    rw [constructAll, if_neg hname, hd.2, ih hlater hnodup.2, ← hd.1]
    rfl

/-- What is constructed of one child is constructed of the other, under the same name. -/
def Keeps (name : α → String) (construct : α → Generated Node) (a a' : α) : Prop :=
  name a = name a' ∧ ∀ node, construct a = .ok node → construct a' = .ok node

/-- Children that are constructed are constructed in any other order too. -/
theorem constructAll_reordered {as mid as' : List α} {earlier : List String}
    {children : Children Node} (hmembers : Forall₂ (Keeps name construct) as mid)
    (horder : Perm mid as') (hnodup : earlier.Nodup)
    (h : constructAll name construct owner earlier as = .ok children) :
    ∃ children', constructAll name construct owner earlier as' = .ok children' ∧
      Perm children children' ∧ children.keys.Nodup := by
  obtain ⟨hall, hkeys⟩ := constructAll_ok h
  -- the counterparts are constructed with the same result, and then put in the other order
  have hmid :
      Forall₂ (fun a child => child.1 = name a ∧ construct a = .ok child.2) mid children := by
    clear horder h hkeys
    induction hmembers generalizing children with
    | nil => exact hall
    | cons hd _ ih =>
      cases hall with
      | cons hc hrest => exact .cons ⟨hc.1.trans hd.1, hd.2 _ hc.2⟩ (ih hrest)
  obtain ⟨children', hall', hperm⟩ := List.perm_comp_forall₂ horder.symm hmid
  obtain ⟨-, hnodupc, hdisjoint⟩ := List.nodup_append.mp (hkeys.mpr hnodup)
  have hpermkeys : Perm (Children.keys children') children.keys := hperm.map _
  refine ⟨children', constructAll_of_forall₂ hall' (fun n hn hin => ?_) ?_, hperm.symm, hnodupc⟩
  · exact hdisjoint n hn n (hpermkeys.mem_iff.mp hin) rfl
  · exact hpermkeys.nodup_iff.mpr hnodupc

end All

/-- A map does not depend on the order in which children of different names are put into it. -/
theorem Children.merge_nil_congr {α : Type} {as as' : Children α} (hperm : Perm as as')
    (hnodup : as.keys.Nodup) : merge [] as = merge [] as' := by
  have hkeys : Perm as.keys as'.keys := hperm.map _
  have has : Perm (merge [] as) as := merge_perm hnodup
  have has' : Perm (merge [] as') as' := merge_perm (hkeys.nodup_iff.mp hnodup)
  have hmerged : Perm (merge [] as) (merge [] as') := (has.trans hperm).trans has'.symm
  have hsorted : ∀ cs : Children α, (merge [] cs).Pairwise fun c d => c.1 < d.1 := fun cs =>
    List.pairwise_map.mp (sorted_merge .nil)
  refine hmerged.eq_of_pairwise (fun c d _ _ hcd hdc => ?_) (hsorted as) (hsorted as')
  exact absurd (String.lt_trans hcd hdc) (String.lt_irrefl _)

/-- **One object.**  The children of an object that had none are the same maps in every order. -/
theorem Frame.finish_reordered {owner : String} {object whole : NestedObject Node}
    {as mid as' : List Attribute} {bs midb bs' : List Block}
    (hattributes : object.attributes = []) (hblocks : object.blocks = [])
    (has : Forall₂ (Keeps Attribute.name Attribute.construct) as mid) (horder : Perm mid as')
    (hbs : Forall₂ (Keeps Block.name Block.construct) bs midb) (horderb : Perm midb bs')
    (h : finish ⟨owner, object, as, bs⟩ = .ok whole) :
    finish ⟨owner, object, as', bs'⟩ = .ok whole := by
  simp only [finish, constructAttributes_eq, constructBlocks_eq, hattributes,
    Children.keys_nil] at h ⊢
  cases hcs : constructAll Attribute.name Attribute.construct owner [] as with
  | error e => rw [hcs] at h; cases h
  | ok children =>
    rw [hcs] at h
    obtain ⟨children', hcs', hperm, hnodup⟩ := constructAll_reordered has horder .nil hcs
    have hobject : object.withChildren children [] = object.withChildren children' [] := by
      simp only [NestedObject.withChildren, hattributes, Children.merge_nil_congr hperm hnodup]
    rw [hcs']
    change (constructAll _ _ _ _ _ >>= _) = _ at h ⊢
    rw [← hobject]
    cases hds : constructAll Block.name Block.construct owner
        (Children.keys (object.withChildren children []).attributes ++
          Children.keys (object.withChildren children []).blocks) bs with
    | error e => rw [hds] at h; cases h
    | ok blocks =>
      rw [hds] at h
      -- the names that are taken are those of the attributes, in the order of their map
      have htaken : (Children.keys (object.withChildren children []).attributes ++
          Children.keys (object.withChildren children []).blocks).Nodup := by
        have hsorted : (Children.keys (Children.merge [] children)).Pairwise (· < ·) :=
          Children.sorted_merge .nil
        simp only [NestedObject.withChildren, hattributes, hblocks, Children.merge_nil,
          Children.keys_nil, List.append_nil]
        exact hsorted.nodup
      obtain ⟨blocks', hds', hpermb, hnodupb⟩ := constructAll_reordered hbs horderb htaken hds
      have hmerge : Children.merge [] blocks = Children.merge [] blocks' :=
        Children.merge_nil_congr hpermb hnodupb
      rw [hds', ← h]
      show Except.ok _ = Except.ok _
      simp only [NestedObject.withChildren, hblocks, Children.merge_nil, hmerge]

/-- A nested node is the same for every order of the children of its object. -/
theorem Shell.finish_reordered {head : Head} {owner : String} {object : NestedObject Node}
    {node : Node} {as mid as' : List Attribute} {bs midb bs' : List Block}
    (hattributes : object.attributes = []) (hblocks : object.blocks = [])
    (has : Forall₂ (Keeps Attribute.name Attribute.construct) as mid) (horder : Perm mid as')
    (hbs : Forall₂ (Keeps Block.name Block.construct) bs midb) (horderb : Perm midb bs')
    (h : (Shell.nested head ⟨owner, object, as, bs⟩).finish = .ok node) :
    (Shell.nested head ⟨owner, object, as', bs'⟩).finish = .ok node := by
  rw [Shell.finish] at h ⊢
  cases hf : Frame.finish ⟨owner, object, as, bs⟩ with
  | error e => rw [hf] at h; cases h
  | ok whole =>
    rw [Frame.finish_reordered hattributes hblocks has horder hbs horderb hf, ← h, hf]

/-! ### Trees in another order -/

/-- An attribute that can be constructed gives the same node in another order. -/
theorem Attribute.Reordered.keeps {a a' : Attribute} (h : a.Reordered a') :
    Keeps Attribute.name Attribute.construct a a' := by
  refine ⟨h.name_eq, fun node hnode => ?_⟩
  rw [Attribute.construct_eq] at hnode ⊢
  cases h with
  | leaf name leaf => exact hnode
  | bare name shape f => exact hnode
  | @nested name shape f o as mid as' members order =>
    have hkeeps := forall₂_imp_of_mem members fun c c' hc h => by
      have hlt := Attribute.steps_attribute_lt (a := .mk name (.nested shape f (some ⟨o, as⟩))) hc
      exact Attribute.Reordered.keeps h
    exact Shell.finish_reordered rfl rfl hkeeps order .nil .nil hnode
  | @single name f external as mid as' members order =>
    have hkeeps := forall₂_imp_of_mem members fun c c' hc h => by
      have hlt := Attribute.steps_attribute_lt (a := .mk name (.single f external as)) hc
      exact Attribute.Reordered.keeps h
    exact Shell.finish_reordered rfl rfl hkeeps order .nil .nil hnode
termination_by a.steps

/-- A block that can be constructed gives the same node in another order. -/
theorem Block.Reordered.keeps {b b' : Block} (h : b.Reordered b') :
    Keeps Block.name Block.construct b b' := by
  refine ⟨h.name_eq, fun node hnode => ?_⟩
  rw [Block.construct_eq] at hnode ⊢
  cases h with
  | bare name shape f => exact hnode
  | @nested name shape f o as as' bs mid bs' attributes members order =>
    obtain ⟨mida, membersa, ordera⟩ := attributes
    have hkeeps := forall₂_imp_of_mem members fun c c' hc h => by
      have hlt := Block.steps_block_lt (b := .mk name (.nested shape f (some ⟨o, as, bs⟩))) hc
      exact Block.Reordered.keeps h
    exact Shell.finish_reordered rfl rfl (membersa.imp fun _ _ => Attribute.Reordered.keeps) ordera
      hkeeps order hnode
  | @single name f external as as' bs mid bs' attributes members order =>
    obtain ⟨mida, membersa, ordera⟩ := attributes
    have hkeeps := forall₂_imp_of_mem members fun c c' hc h => by
      have hlt := Block.steps_block_lt (b := .mk name (.single f external as bs)) hc
      exact Block.Reordered.keeps h
    exact Shell.finish_reordered rfl rfl (membersa.imp fun _ _ => Attribute.Reordered.keeps) ordera
      hkeeps order hnode
termination_by b.steps

theorem Attribute.build_reordered {a a' : Attribute} (h : a.Reordered a') (node : Node) :
    a.build = .ok node ↔ a'.build = .ok node := by
  rw [a.build_eq, a'.build_eq]
  exact ⟨h.keeps.2 node, h.symm.keeps.2 node⟩

theorem Block.build_reordered {b b' : Block} (h : b.Reordered b') (node : Node) :
    b.build = .ok node ↔ b'.build = .ok node := by
  rw [b.build_eq, b'.build_eq]
  exact ⟨h.keeps.2 node, h.symm.keeps.2 node⟩

/-- A resource that can be built gives the same tree in another order. -/
theorem Resource.Reordered.build_ok {r r' : Resource} {tree : ResourceTree} (h : r.Reordered r')
    (htree : r.build = .ok tree) : r'.build = .ok tree := by
  have hschema := h.schema
  rw [Resource.build] at htree ⊢
  rw [← h.name_eq]
  generalize r.schema = s, r'.schema = s' at hschema htree
  cases hschema with
  | none => exact htree
  | @some s s' hs =>
    change (NestedObject.build r.name s.attributes s.blocks >>= _) = _ at htree
    change (NestedObject.build r.name s'.attributes s'.blocks >>= _) = _
    rw [NestedObject.build_eq] at htree ⊢
    obtain ⟨mid, members, order⟩ := hs.attributes
    obtain ⟨midb, membersb, orderb⟩ := hs.blocks
    cases hf : Frame.finish ⟨r.name, {}, s.attributes, s.blocks⟩ with
    | error e => rw [hf] at htree; cases htree
    | ok whole =>
      have hf' : Frame.finish ⟨r.name, {}, s'.attributes, s'.blocks⟩ = .ok whole :=
        Frame.finish_reordered rfl rfl (members.imp fun _ _ => Attribute.Reordered.keeps) order
          (membersb.imp fun _ _ => Block.Reordered.keeps) orderb hf
      rw [hf] at htree
      rw [hf', ← htree, hs.description_eq, hs.deprecation_eq]

theorem Resource.build_reordered {r r' : Resource} (h : r.Reordered r') (tree : ResourceTree) :
    r.build = .ok tree ↔ r'.build = .ok tree :=
  ⟨h.build_ok, h.symm.build_ok⟩

/-! ### What is generated -/

/-- Nodes from which the same code is generated, or the same error. -/
structure Node.SameOutput (node node' : Node) : Prop where
  schema_eq : ∀ name, node.schema name = node'.schema name
  modelField_eq : ∀ name, node.modelField name = node'.modelField name
  typePairs_eq : ∀ name, node.typePairs name = node'.typePairs name
  adapters_eq : ∀ name, node.adapters name = node'.adapters name
  imports_eq : node.imports = node'.imports

/-- Resources from which the same code and the same files are generated, or the same error. -/
structure ResourceTree.SameOutput (tree tree' : ResourceTree) : Prop where
  schema_eq : tree.schema = tree'.schema
  modelFields_eq : tree.modelFields = tree'.modelFields
  model_eq : tree.model = tree'.model
  typePairs_eq : tree.typePairs = tree'.typePairs
  adapters_eq : tree.adapters = tree'.adapters
  imports_eq : tree.imports = tree'.imports
  generate_eq : ∀ options, tree.generate options = tree'.generate options

/-- Comparing a resource with itself succeeds if all float defaults are numbers. -/
theorem ResourceTree.equal_self_iff {tree : ResourceTree} :
    tree.equal tree = true ↔ NumberChildren tree.attributes ∧ NumberChildren tree.blocks := by
  have hchildren : ∀ children : Children Node,
      sameChildren children children = true ↔ NumberChildren children := fun children => by
    rw [← sameChildren_self_iff, sameChildren_iff_pairs]
    simp only [sameChildren, Bool.and_eq_true, beq_self_eq_true, true_and, List.all_eq_true,
      Node.equal_iff]
  simp only [equal, Bool.and_eq_true, beq_self_eq_true, true_and, and_true, hchildren]

/-- **Declaration order.**  Specifications that differ in the order of declarations only can both be
built or neither, and the trees are one and the same; they also compare as equal, if their float
defaults are numbers.  All that is generated from them is the same. -/
theorem build_of_reordered :
    (∀ a a' : Attribute, a.Reordered a' →
      ((∃ node, a.build = .ok node) ↔ ∃ node, a'.build = .ok node) ∧
      ∀ node node', a.build = .ok node → a'.build = .ok node' →
        node = node' ∧ (node.equal node' = true ↔ node.NumberDefaults) ∧
          node.SameOutput node') ∧
    (∀ b b' : Block, b.Reordered b' →
      ((∃ node, b.build = .ok node) ↔ ∃ node, b'.build = .ok node) ∧
      ∀ node node', b.build = .ok node → b'.build = .ok node' →
        node = node' ∧ (node.equal node' = true ↔ node.NumberDefaults) ∧
          node.SameOutput node') ∧
    ∀ r r' : Resource, r.Reordered r' →
      ((∃ tree, r.build = .ok tree) ↔ ∃ tree, r'.build = .ok tree) ∧
      (∀ tree tree', r.build = .ok tree → r'.build = .ok tree' →
        tree = tree' ∧
          (tree.equal tree' = true ↔
            NumberChildren tree.attributes ∧ NumberChildren tree.blocks) ∧
          tree.SameOutput tree') ∧
      ∀ options file, r.generate options = .ok file ↔ r'.generate options = .ok file := by
  have hnode : ∀ node : Node, (node.equal node = true ↔ node.NumberDefaults) ∧
      node.SameOutput node := fun node =>
    ⟨Node.equal_iff.trans Node.same_self_iff, ⟨fun _ => rfl, fun _ => rfl, fun _ => rfl,
      fun _ => rfl, rfl⟩⟩
  refine ⟨fun a a' h => ?_, fun b b' h => ?_, fun r r' h => ?_⟩
  · have hbuild := Attribute.build_reordered h
    refine ⟨exists_congr hbuild, fun node node' ha ha' => ?_⟩
    obtain rfl : node = node' := Except.ok.inj (((hbuild node).mp ha).symm.trans ha')
    exact ⟨rfl, hnode node⟩
  · have hbuild := Block.build_reordered h
    refine ⟨exists_congr hbuild, fun node node' hb hb' => ?_⟩
    obtain rfl : node = node' := Except.ok.inj (((hbuild node).mp hb).symm.trans hb')
    exact ⟨rfl, hnode node⟩
  · have hbuild := Resource.build_reordered h
    refine ⟨exists_congr hbuild, fun tree tree' hr hr' => ?_, fun options file => ?_⟩
    · obtain rfl : tree = tree' := Except.ok.inj (((hbuild tree).mp hr).symm.trans hr')
      exact ⟨rfl, ResourceTree.equal_self_iff, ⟨rfl, rfl, rfl, rfl, rfl, rfl, fun _ => rfl⟩⟩
    · simp only [Resource.generate, bind_eq_ok, hbuild]

/-- A boolean attribute. -/
def flagAttribute (name : String) : Attribute := .mk name (.leaf (.bool { mode := .optional }))

/-- A block whose attributes and blocks, and those of its attribute, are declared in some order. -/
def pairBlock (inner attributes : List Attribute → List Attribute)
    (blocks : List Block → List Block) : Block :=
  .mk "rule" (.single {} none
    (attributes [.mk "a" (.single { mode := .optional } none (inner [flagAttribute "x",
      flagAttribute "y"])), flagAttribute "b"])
    (blocks [.mk "c" (.single {} none [] []), .mk "d" (.nested .list {} (some {}))]))

/-- A resource with one block. -/
def blockResource (block : Block) : Resource :=
  { name := "firewall", schema := some { blocks := [block] } }

/-- A block with two levels in reverse order, an attribute in it, and a resource that has it. -/
theorem build_of_reordered_pairBlock :
    (∃ node, (pairBlock List.reverse List.reverse List.reverse).build = .ok node) ∧
    (∀ node node', (pairBlock id id id).build = .ok node →
      (pairBlock List.reverse List.reverse List.reverse).build = .ok node' → node = node') ∧
    (∃ tree, (blockResource (pairBlock List.reverse List.reverse List.reverse)).build = .ok tree) ∧
    ∃ node, (Attribute.mk "a" (.single { mode := .optional } none
      [flagAttribute "y", flagAttribute "x"])).build = .ok node := by
  obtain ⟨hattributes, hblocks, hresources⟩ := build_of_reordered
  have hflag : ∀ name, (flagAttribute name).Reordered (flagAttribute name) := fun name =>
    .leaf name _
  have hinner : (Attribute.mk "a" (.single { mode := .optional } none [flagAttribute "x",
      flagAttribute "y"])).Reordered (.mk "a" (.single { mode := .optional } none
        [flagAttribute "y", flagAttribute "x"])) :=
    .single (.cons (hflag "x") (.cons (hflag "y") .nil)) (.swap _ _ _)
  have hblock : (pairBlock id id id).Reordered
      (pairBlock List.reverse List.reverse List.reverse) :=
    .single ⟨_, .cons hinner (.cons (hflag "b") .nil), .swap _ _ _⟩
      (.cons (.single ⟨[], .nil, .nil⟩ .nil .nil)
        (.cons (.nested ⟨[], .nil, .nil⟩ .nil .nil) .nil)) (.swap _ _ _)
  have hresource : (blockResource (pairBlock id id id)).Reordered
      (blockResource (pairBlock List.reverse List.reverse List.reverse)) :=
    ⟨rfl, .some ⟨⟨[], .nil, .nil⟩, ⟨_, .cons hblock .nil, .refl _⟩, rfl, rfl⟩⟩
  obtain ⟨hiff, heq⟩ := hblocks _ _ hblock
  refine ⟨hiff.mp ⟨_, (Block.build_eq _).trans rfl⟩, fun node node' h h' => (heq node node' h h').1,
    (hresources _ _ hresource).1.mp ?_, (hattributes _ _ hinner).1.mp
      ⟨_, (Attribute.build_eq _).trans rfl⟩⟩
  have hobject : NestedObject.build "firewall" [] [pairBlock id id id] = .ok _ :=
    (NestedObject.build_eq _ _ _).trans rfl
  simp only [blockResource, Resource.build, hobject]
  exact ⟨_, rfl⟩

end ProviderCode
