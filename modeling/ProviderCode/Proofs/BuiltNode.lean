import ProviderCode.Proofs.Construction
import ProviderCode.Resource.Tree

/-!
# Trees that are built

What a tree that has been built has in common with its specification.  In every object of the tree
the attributes and blocks are those that are declared for it, each under its own name and of its own
kind; the names of both together are different; and the facets of every node fit its kind.

Main statement: all trees that are built represent their specification in this sense, those of
attributes, of blocks and of whole resources.
-/

namespace ProviderCode

open List (Forall₂ Perm)

/-! ### The children of a node that is built -/

/-- A child that is stored under its own name. -/
def Attribute.Builds (a : Attribute) (child : String × Node) : Prop :=
  child.1 = a.name ∧ a.build = .ok child.2

def Block.Builds (b : Block) (child : String × Node) : Prop :=
  child.1 = b.name ∧ b.build = .ok child.2

/-- The children of an object are those that are declared for it, each under its own name.  They are
in the order of their names, and all names are different. -/
structure NestedObject.MadeOf (object : NestedObject Node) (attributes : List Attribute)
    (blocks : List Block) : Prop where
  attributes_perm : ∃ as, Perm object.attributes as ∧ Forall₂ Attribute.Builds attributes as
  blocks_perm : ∃ bs, Perm object.blocks bs ∧ Forall₂ Block.Builds blocks bs
  attributes_sorted : (Children.keys object.attributes).Pairwise (· < ·)
  blocks_sorted : (Children.keys object.blocks).Pairwise (· < ·)
  distinct : (Children.keys object.attributes ++ Children.keys object.blocks).Nodup

/-- Children that are constructed under different names are all in the object. -/
theorem NestedObject.madeOf_withChildren {object : NestedObject Node} {owner : String}
    {attributes : List Attribute} {blocks : List Block} {as bs : Children Node}
    (hattributes : object.attributes = []) (hblocks : object.blocks = [])
    (has : constructAttributes owner [] attributes = .ok as)
    (hbs : constructBlocks owner (attributes.map Attribute.name) blocks = .ok bs) :
    (object.withChildren as bs).MadeOf attributes blocks := by
  rw [constructAttributes_eq] at has
  rw [constructBlocks_eq] at hbs
  obtain ⟨hall, hnodup⟩ := constructAll_ok has
  obtain ⟨hallb, hnodupb⟩ := constructAll_ok hbs
  rw [← keys_of_forall₂ hall] at hnodupb
  have hkeys : (as.keys ++ bs.keys).Nodup := hnodupb.mpr (hnodup.mpr List.nodup_nil)
  obtain ⟨hnodupas, hnodupbs, -⟩ := List.nodup_append.mp hkeys
  rw [withChildren, hattributes, hblocks]
  have hpa : Perm (Children.merge [] as) as := Children.merge_perm hnodupas
  have hpb : Perm (Children.merge [] bs) bs := Children.merge_perm hnodupbs
  exact {
    attributes_perm := ⟨as, hpa, hall.imp fun a child h => ⟨h.1, a.build_eq.trans h.2⟩⟩
    blocks_perm := ⟨bs, hpb, hallb.imp fun b child h => ⟨h.1, b.build_eq.trans h.2⟩⟩
    attributes_sorted := Children.sorted_merge .nil
    blocks_sorted := Children.sorted_merge .nil
    distinct := ((hpa.map _).append (hpb.map _)).nodup_iff.mpr hkeys }

/-- A finished object has the children that are declared, and its validators and plan modifiers are
those it had before. -/
theorem Frame.finish_ok {frame : Frame} {object : NestedObject Node}
    (hattributes : frame.object.attributes = []) (hblocks : frame.object.blocks = [])
    (hfits : frame.object.Fits) (h : frame.finish = .ok object) :
    object.MadeOf frame.attributes frame.blocks ∧ object.Fits := by
  rw [Frame.finish, hattributes] at h
  cases has : constructAttributes frame.owner [] frame.attributes with
  | error e => rw [Children.keys_nil, has] at h; cases h
  | ok as =>
    rw [Children.keys_nil, has] at h
    change (constructBlocks frame.owner _ frame.blocks >>= _) = _ at h
    rw [constructBlocks_after hattributes hblocks has] at h
    cases hbs : constructBlocks frame.owner (frame.attributes.map Attribute.name) frame.blocks with
    | error e => rw [hbs] at h; cases h
    | ok bs =>
      rw [hbs] at h
      cases h
      have hmade : (frame.object.withChildren as bs).MadeOf frame.attributes frame.blocks :=
        NestedObject.madeOf_withChildren hattributes hblocks has hbs
      exact ⟨hmade, hfits.validators_kind, hfits.planModifiers_kind⟩

/-- What is known of a node that is built for some name and kind and for some children. -/
structure Node.BuiltFor (node : Node) (kind : NodeKind) (attributes : List Attribute)
    (blocks : List Block) : Prop where
  kind_eq : node.kind = kind
  facets_fit : node.facets.Fits kind
  object_fits : ∀ object, node.object? = some object → object.Fits
  object_madeOf : ∀ object, node.object? = some object → object.MadeOf attributes blocks

theorem Head.Opens.builtFor {head : Head} {frame : Frame} {name : String} {kind : NodeKind}
    {attributes : List Attribute} {blocks : List Block} {node : Node}
    (hopens : head.Opens frame name kind attributes blocks)
    (h : (Shell.nested head frame).finish = .ok node) : node.BuiltFor kind attributes blocks := by
  change Node.nested head.kind head.facets <$> frame.finish = _ at h
  cases hf : frame.finish with
  | error e => rw [hf] at h; cases h
  | ok object =>
    rw [hf] at h
    cases h
    obtain ⟨hmade, hfits⟩ :=
      Frame.finish_ok hopens.no_attributes hopens.no_blocks hopens.object_fits hf
    rw [hopens.attributes_eq, hopens.blocks_eq] at hmade
    exact {
      kind_eq := hopens.kind_eq
      facets_fit := hopens.facets_fit
      object_fits := fun _ ho => by cases ho; exact hfits
      object_madeOf := fun _ ho => by cases ho; exact hmade }

theorem Attribute.builtFor_build {a : Attribute} {node : Node} (h : a.build = .ok node) :
    node.BuiltFor a.kind a.attributes [] := by
  rw [a.build_eq, a.construct_eq] at h
  cases hs : a.shell with
  | error e => rw [hs] at h; cases h
  | ok shell =>
    rw [hs] at h
    cases shell with
    | leaf leaf =>
      cases h
      obtain ⟨hkind, hfits, hobject⟩ := Attribute.shell_leaf hs
      have hnone : ∀ object, node.object? ≠ some object := fun object ho => by
        rw [hobject] at ho
        cases ho
      exact ⟨hkind, hfits, fun _ ho => absurd ho (hnone _), fun _ ho => absurd ho (hnone _)⟩
    | nested head frame => exact (Attribute.shell_nested hs).builtFor h

theorem Block.builtFor_build {b : Block} {node : Node} (h : b.build = .ok node) :
    node.BuiltFor b.kind b.attributes b.blocks := by
  rw [b.build_eq, b.construct_eq] at h
  cases hs : b.shell with
  | error e => rw [hs] at h; cases h
  | ok shell =>
    rw [hs] at h
    cases shell with
    | leaf leaf => exact absurd hs Block.shell_ne_leaf
    | nested head frame => exact (Block.shell_nested hs).builtFor h

/-- The children of a resource are those that are declared for it. -/
theorem NestedObject.madeOf_build {parent : String} {attributes : List Attribute}
    {blocks : List Block} {object : NestedObject Node}
    (h : NestedObject.build parent attributes blocks = .ok object) :
    object.MadeOf attributes blocks := by
  rw [NestedObject.build_eq] at h
  have hfits : ({} : NestedObject Node).Fits := ⟨rfl, rfl⟩
  exact (Frame.finish_ok rfl rfl hfits h).1

/-- The nodes of a resource are the children of an object that is made of its schema. -/
theorem Resource.madeOf_build {resource : Resource} {tree : ResourceTree}
    (h : resource.build = .ok tree) :
    ∃ (schema : Schema) (object : NestedObject Node), resource.schema = some schema ∧
      object.MadeOf schema.attributes schema.blocks ∧
      tree.attributes = object.attributes ∧ tree.blocks = object.blocks := by
  rw [Resource.build] at h
  cases hs : resource.schema with
  | none => rw [hs] at h; cases h
  | some schema =>
    rw [hs] at h
    obtain ⟨object, hobject, htree⟩ := bind_eq_ok.mp h
    cases htree
    exact ⟨schema, object, rfl, NestedObject.madeOf_build hobject, rfl, rfl⟩

/-! ### Entries and declarations -/

section Entries

variable {α : Type} {name : α → String} {kind : α → NodeKind} {build : α → Generated Node}
  {as : List α} {children built : Children Node}

/-- The entries of a map are the declared names and kinds. -/
theorem entries_perm (hkind : ∀ a node, build a = .ok node → node.kind = kind a)
    (hp : Perm children built)
    (h : Forall₂ (fun a child => child.1 = name a ∧ build a = .ok child.2) as built) :
    Perm (children.map fun child => (child.1, child.2.kind))
      (as.map fun a => (name a, kind a)) := by
  have hmap :
      built.map (fun child => (child.1, child.2.kind)) = as.map fun a => (name a, kind a) := by
    clear hp
    induction h with
    | nil => rfl
    | cons hd _ ih => rw [List.map_cons, List.map_cons, ih, hd.1, hkind _ _ hd.2]
  rw [← hmap]
  exact hp.map _

/-- The entry under a declared name is the node that is built for it. -/
theorem build_of_entry (hnodup : children.keys.Nodup) (hp : Perm children built)
    (h : Forall₂ (fun a child => child.1 = name a ∧ build a = .ok child.2) as built)
    {a : α} (ha : a ∈ as) {node : Node} (hnode : (name a, node) ∈ children) :
    build a = .ok node := by
  obtain ⟨child, hchild, hname, hbuild⟩ :
      ∃ child ∈ built, child.1 = name a ∧ build a = .ok child.2 := by
    clear hp
    induction h with
    | nil => exact absurd ha List.not_mem_nil
    | cons hd _ ih =>
      rcases List.mem_cons.mp ha with rfl | ha
      · exact ⟨_, List.mem_cons_self, hd⟩
      · obtain ⟨child, hchild, h⟩ := ih ha
        exact ⟨child, List.mem_cons_of_mem _ hchild, h⟩
  have hentry : (name a, child.2) ∈ children := by
    rw [← hname]
    exact hp.mem_iff.mpr hchild
  rw [hbuild, Children.eq_of_mem hnodup hentry hnode]

end Entries

/-- Two maps of children that hold what is declared: as many entries as declarations, under each
declared name an entry of the declared kind, and no name in both maps. -/
structure Reflects (attributes blocks : Children Node) (as : List Attribute) (bs : List Block) :
    Prop where
  attributes_sorted : attributes.keys.Pairwise (· < ·)
  blocks_sorted : blocks.keys.Pairwise (· < ·)
  disjoint : ∀ name ∈ attributes.keys, name ∉ blocks.keys
  attribute_kinds : ∀ child ∈ attributes, child.2.kind.isBlock = false
  block_kinds : ∀ child ∈ blocks, child.2.kind.isBlock = true
  attributes_length : attributes.length = as.length
  blocks_length : blocks.length = bs.length
  attribute_entries :
    Perm (attributes.map fun child => (child.1, child.2.kind)) (as.map fun a => (a.name, a.kind))
  block_entries :
    Perm (blocks.map fun child => (child.1, child.2.kind)) (bs.map fun b => (b.name, b.kind))

namespace NestedObject.MadeOf

variable {object : NestedObject Node} {attributes : List Attribute} {blocks : List Block}

theorem attribute_entries (h : object.MadeOf attributes blocks) :
    Perm (object.attributes.map fun child => (child.1, child.2.kind))
      (attributes.map fun a => (a.name, a.kind)) := by
  obtain ⟨as, hperm, hall⟩ := h.attributes_perm
  exact entries_perm (fun a node hb => (a.builtFor_build hb).kind_eq) hperm hall

theorem block_entries (h : object.MadeOf attributes blocks) :
    Perm (object.blocks.map fun child => (child.1, child.2.kind))
      (blocks.map fun b => (b.name, b.kind)) := by
  obtain ⟨bs, hperm, hall⟩ := h.blocks_perm
  exact entries_perm (fun b node hb => (b.builtFor_build hb).kind_eq) hperm hall

/-- The attribute under a declared name is the one that is built for it. -/
theorem attribute_build (h : object.MadeOf attributes blocks) {a : Attribute} {node : Node}
    (ha : a ∈ attributes) (hnode : (a.name, node) ∈ object.attributes) : a.build = .ok node := by
  obtain ⟨as, hperm, hall⟩ := h.attributes_perm
  have hnodup := (List.nodup_append.mp h.distinct).1
  exact build_of_entry hnodup hperm hall ha hnode

theorem block_build (h : object.MadeOf attributes blocks) {b : Block} {node : Node}
    (hb : b ∈ blocks) (hnode : (b.name, node) ∈ object.blocks) : b.build = .ok node := by
  obtain ⟨bs, hperm, hall⟩ := h.blocks_perm
  have hnodup := (List.nodup_append.mp h.distinct).2.1
  exact build_of_entry hnodup hperm hall hb hnode

theorem reflects (h : object.MadeOf attributes blocks) :
    Reflects object.attributes object.blocks attributes blocks := by
  have hattributes := h.attribute_entries
  have hblocks := h.block_entries
  refine {
    attributes_sorted := h.attributes_sorted
    blocks_sorted := h.blocks_sorted
    disjoint := fun name ha hb => (List.nodup_append.mp h.distinct).2.2 name ha name hb rfl
    attribute_kinds := fun child hchild => ?_
    block_kinds := fun child hchild => ?_
    attributes_length := ?_
    blocks_length := ?_
    attribute_entries := hattributes
    block_entries := hblocks }
  · obtain ⟨a, -, ha⟩ := List.mem_map.mp (hattributes.mem_iff.mp (List.mem_map_of_mem hchild))
    rw [← (Prod.mk.inj ha).2]
    exact a.isBlock_kind
  · obtain ⟨b, -, hb⟩ := List.mem_map.mp (hblocks.mem_iff.mp (List.mem_map_of_mem hchild))
    rw [← (Prod.mk.inj hb).2]
    exact b.isBlock_kind
  · have hlength := hattributes.length_eq
    rwa [List.length_map, List.length_map] at hlength
  · have hlength := hblocks.length_eq
    rwa [List.length_map, List.length_map] at hlength

end NestedObject.MadeOf

/-! ### Nodes that represent declarations -/

/-- A node of some kind whose object holds the children that are declared. -/
structure Node.Holds (node : Node) (kind : NodeKind) (attributes : List Attribute)
    (blocks : List Block) : Prop where
  kind_eq : node.kind = kind
  facets_fit : node.facets.Fits node.kind
  object_fits : ∀ object, node.object? = some object → object.Fits
  object_reflects : ∀ object, node.object? = some object →
    Reflects object.attributes object.blocks attributes blocks
  no_blocks : node.kind.isBlock = false → ∀ object, node.object? = some object → object.blocks = []

/-- A node that represents an attribute, as do all its descendants what is declared for them. -/
inductive Attribute.Represented : Attribute → Node → Prop
  | intro {a : Attribute} {node : Node} (holds : node.Holds a.kind a.attributes [])
      (attributes : ∀ object, node.object? = some object → ∀ c ∈ a.attributes, ∀ child,
        (c.name, child) ∈ object.attributes → c.Represented child) :
      a.Represented node

/-- A node that represents a block, as do all its descendants what is declared for them. -/
inductive Block.Represented : Block → Node → Prop
  | intro {b : Block} {node : Node} (holds : node.Holds b.kind b.attributes b.blocks)
      (attributes : ∀ object, node.object? = some object → ∀ c ∈ b.attributes, ∀ child,
        (c.name, child) ∈ object.attributes → c.Represented child)
      (blocks : ∀ object, node.object? = some object → ∀ c ∈ b.blocks, ∀ child,
        (c.name, child) ∈ object.blocks → c.Represented child) :
      b.Represented node

/-- A resource whose tree represents its schema. -/
structure ResourceTree.Represents (tree : ResourceTree) (schema : Schema) : Prop where
  reflects : Reflects tree.attributes tree.blocks schema.attributes schema.blocks
  attributes : ∀ a ∈ schema.attributes, ∀ node, (a.name, node) ∈ tree.attributes →
    a.Represented node
  blocks : ∀ b ∈ schema.blocks, ∀ node, (b.name, node) ∈ tree.blocks → b.Represented node

theorem Attribute.holds_of_build {a : Attribute} {node : Node} (h : a.build = .ok node) :
    node.Holds a.kind a.attributes [] := by
  have hb := a.builtFor_build h
  refine ⟨hb.kind_eq, hb.kind_eq ▸ hb.facets_fit, hb.object_fits,
    fun object ho => (hb.object_madeOf object ho).reflects, fun _ object ho => ?_⟩
  exact List.eq_nil_of_length_eq_zero (hb.object_madeOf object ho).reflects.blocks_length

theorem Block.holds_of_build {b : Block} {node : Node} (h : b.build = .ok node) :
    node.Holds b.kind b.attributes b.blocks := by
  have hb := b.builtFor_build h
  refine ⟨hb.kind_eq, hb.kind_eq ▸ hb.facets_fit, hb.object_fits,
    fun object ho => (hb.object_madeOf object ho).reflects, fun hblock => ?_⟩
  rw [hb.kind_eq, b.isBlock_kind] at hblock
  cases hblock

/-! ### Down the tree -/

theorem Attribute.steps_le {c : Attribute} : ∀ {as : List Attribute}, c ∈ as →
    c.steps ≤ attributeSteps as
  | a :: as, h => by
    rw [attributeSteps]
    rcases List.mem_cons.mp h with rfl | h
    · omega
    · have := Attribute.steps_le h
      omega

theorem Block.steps_le {c : Block} : ∀ {bs : List Block}, c ∈ bs → c.steps ≤ blockSteps bs
  | b :: bs, h => by
    rw [blockSteps]
    rcases List.mem_cons.mp h with rfl | h
    · omega
    · have := Block.steps_le h
      omega

theorem Attribute.steps_attribute_lt : ∀ {a c : Attribute}, c ∈ a.attributes → c.steps < a.steps
  | .mk _ (.leaf _), _, h | .mk _ (.nested _ _ none), _, h => absurd h List.not_mem_nil
  | .mk _ (.nested _ _ (some ⟨_, as⟩)), c, h | .mk _ (.single _ _ as), c, h => by
    have hle : c.steps ≤ attributeSteps as := Attribute.steps_le h
    simp only [Attribute.steps]
    omega

theorem Block.steps_block_lt : ∀ {b c : Block}, c ∈ b.blocks → c.steps < b.steps
  | .mk _ (.nested _ _ none), _, h => absurd h List.not_mem_nil
  | .mk _ (.nested _ _ (some ⟨_, _, bs⟩)), c, h | .mk _ (.single _ _ _ bs), c, h => by
    have hle : c.steps ≤ blockSteps bs := Block.steps_le h
    simp only [Block.steps]
    omega

theorem Attribute.represented {a : Attribute} {node : Node} (h : a.build = .ok node) :
    a.Represented node := by
  refine .intro (a.holds_of_build h) fun object ho c hc child hchild => ?_
  have hlt := Attribute.steps_attribute_lt hc
  have hbuild := ((a.builtFor_build h).object_madeOf object ho).attribute_build hc hchild
  exact Attribute.represented hbuild
termination_by a.steps

theorem Block.represented {b : Block} {node : Node} (h : b.build = .ok node) :
    b.Represented node := by
  have hmade := (b.builtFor_build h).object_madeOf
  refine .intro (b.holds_of_build h) (fun object ho c hc child hchild => ?_)
    fun object ho c hc child hchild => ?_
  · exact Attribute.represented ((hmade object ho).attribute_build hc hchild)
  · have hlt := Block.steps_block_lt hc
    exact Block.represented ((hmade object ho).block_build hc hchild)
termination_by b.steps

theorem Resource.represented {resource : Resource} {tree : ResourceTree}
    (h : resource.build = .ok tree) :
    ∃ schema, resource.schema = some schema ∧ tree.Represents schema := by
  obtain ⟨schema, object, hschema, hmade, has, hbs⟩ := Resource.madeOf_build h
  refine ⟨schema, hschema, ?reflects, ?attributes, ?blocks⟩
  case reflects =>
    rw [has, hbs]
    exact hmade.reflects
  case attributes =>
    rw [has]
    exact fun a ha node hnode => Attribute.represented (hmade.attribute_build ha hnode)
  case blocks =>
    rw [hbs]
    exact fun b hb node hnode => Block.represented (hmade.block_build hb hnode)

/-- **Trees that are built.**  In every object of a tree that is built, and at the top level of a
resource, no declared child is lost, overwritten or moved, and every node fits its kind. -/
theorem represented_of_build :
    (∀ (a : Attribute) (node : Node), a.build = .ok node → a.Represented node) ∧
    (∀ (b : Block) (node : Node), b.build = .ok node → b.Represented node) ∧
    ∀ (resource : Resource) (tree : ResourceTree), resource.build = .ok tree →
      ∃ schema, resource.schema = some schema ∧ tree.Represents schema :=
  ⟨fun _ _ => Attribute.represented, fun _ _ => Block.represented, fun _ _ => Resource.represented⟩

/-- An attribute with a child. -/
def ruleAttribute : Attribute :=
  .mk "a" (.single { mode := .optional } none [.mk "x" (.leaf (.string { mode := .optional }))])

/-- A block whose attribute `a` and block `c` have children of their own. -/
def ruleBlock : Block :=
  .mk "rule" (.single {} none [ruleAttribute, .mk "b" (.leaf (.bool { mode := .optional }))]
    [.mk "c" (.nested .list {} (some { blocks := [.mk "d" (.single {} none [] [])] }))])

/-- A resource with an attribute and a block. -/
def ruleResource : Resource :=
  { name := "firewall", schema := some { attributes := [ruleAttribute], blocks := [ruleBlock] } }

/-- The trees of the attribute, the block and the resource represent what is declared. -/
theorem represented_of_build_ruleBlock :
    (∃ node, ruleAttribute.build = .ok node ∧ ruleAttribute.Represented node) ∧
    (∃ node, ruleBlock.build = .ok node ∧ ruleBlock.Represented node) ∧
    ∃ tree schema, ruleResource.build = .ok tree ∧ ruleResource.schema = some schema ∧
      tree.Represents schema := by
  obtain ⟨hattributes, hblocks, hresources⟩ := represented_of_build
  have hattribute : ruleAttribute.build = .ok _ := ruleAttribute.build_eq.trans rfl
  have hblock : ruleBlock.build = .ok _ := ruleBlock.build_eq.trans rfl
  have hobject : NestedObject.build "firewall" [ruleAttribute] [ruleBlock] = .ok _ :=
    (NestedObject.build_eq _ _ _).trans rfl
  obtain ⟨tree, hresource⟩ : ∃ tree, ruleResource.build = .ok tree := by
    simp only [ruleResource, Resource.build, hobject]
    exact ⟨_, rfl⟩
  obtain ⟨schema, hschema, hrepresents⟩ := hresources _ tree hresource
  exact ⟨⟨_, hattribute, hattributes _ _ hattribute⟩, ⟨_, hblock, hblocks _ _ hblock⟩,
    tree, schema, hresource, hschema, hrepresents⟩

end ProviderCode
