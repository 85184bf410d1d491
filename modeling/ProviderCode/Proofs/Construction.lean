import Mathlib.Data.List.Forall2
import ProviderCode.Node.Build
import ProviderCode.Proofs.Children
import ProviderCode.Proofs.Results

/-!
# Construction by recursion

What building means without a stack.  An attribute or block first needs the part that its kind
demands.  Then its attributes are built in the order in which they are declared, and after them its
blocks; a child whose name an earlier sibling has is refused before it is built.  The children of an
object end up in the maps of this object and nowhere else.

* `Frame.run_eq`: a stack of objects that wait is the recursion, continued for each of them.
* `Attribute.build_eq`, `Block.build_eq`: building with a stack is building by recursion.
* `NestedObject.build_eq`: so is building an object that is no node's, with a new stack for each child.
-/

namespace ProviderCode

open List (Forall₂)

/-- An object with more children. -/
def NestedObject.withChildren (object : NestedObject Node) (attributes blocks : Children Node) :
    NestedObject Node :=
  { object with
    attributes := Children.merge object.attributes attributes
    blocks := Children.merge object.blocks blocks }

/-! ### The recursion -/

mutual

/-- The node of an attribute with all its descendants. -/
def Attribute.construct : Attribute → Generated Node
  | .mk name (.leaf leaf) => leaf.build name
  | .mk name (.nested shape _ none) =>
    .error (.missingPart name (NestedKind.attributes shape).name "nested_object")
  | .mk name (.nested shape f (some ⟨o, attributes⟩)) => do
    let kind := NestedKind.attributes shape
    let children ← constructAttributes name [] attributes
    return .nested kind (.ofAttribute (.nested kind) Empty.elim f)
      ((NestedObject.ofFacets o).withChildren children [])
  | .mk name (.single f external attributes) => do
    let kind := NestedKind.singleAttribute
    let children ← constructAttributes name [] attributes
    return .nested kind
      { NodeFacets.ofAttribute (.nested kind) Empty.elim f with customType := none }
      (((({} : NestedObject Node).withExternal external).withCustomType f.customType).withChildren
        children [])
termination_by structural a => a

/-- The attributes of `owner` under their names, as they are declared; `earlier` are the names of
the siblings before them. -/
def constructAttributes (owner : String) (earlier : List String) :
    List Attribute → Generated (Children Node)
  | [] => .ok []
  | a :: as =>
    if a.name ∈ earlier then .error (.duplicateName a.name owner)
    else do
      let node ← a.construct
      let rest ← constructAttributes owner (a.name :: earlier) as
      return (a.name, node) :: rest
termination_by structural as => as

end

mutual

/-- The node of a block with all its descendants. -/
def Block.construct : Block → Generated Node
  | .mk name (.nested shape _ none) =>
    .error (.missingPart name (NestedKind.blocks shape).name "nested_object")
  | .mk name (.nested shape f (some ⟨o, attributes, blocks⟩)) => do
    let kind := NestedKind.blocks shape
    let as ← constructAttributes name [] attributes
    let bs ← constructBlocks name (attributes.map Attribute.name) blocks
    return .nested kind (.ofBlock (.nested kind) f) ((NestedObject.ofFacets o).withChildren as bs)
  | .mk name (.single f external attributes blocks) => do
    let kind := NestedKind.singleBlock
    let as ← constructAttributes name [] attributes
    let bs ← constructBlocks name (attributes.map Attribute.name) blocks
    return .nested kind { NodeFacets.ofBlock (.nested kind) f with customType := none }
      (((({} : NestedObject Node).withExternal external).withCustomType f.customType).withChildren
        as bs)
termination_by structural b => b

/-- The blocks of `owner` under their names, as they are declared; `earlier` are the names of the
attributes and of the blocks before them. -/
def constructBlocks (owner : String) (earlier : List String) :
    List Block → Generated (Children Node)
  | [] => .ok []
  | b :: bs =>
    if b.name ∈ earlier then .error (.duplicateName b.name owner)
    else do
      let node ← b.construct
      let rest ← constructBlocks owner (b.name :: earlier) bs
      return (b.name, node) :: rest
termination_by structural bs => bs

end

/-! ### Children of one sort -/

section All

variable {α : Type} (name : α → String) (construct : α → Generated Node) (owner : String)

/-- The children of `owner` under their names, as they are declared, for any sort of children. -/
def constructAll (earlier : List String) : List α → Generated (Children Node)
  | [] => .ok []
  | a :: as =>
    if name a ∈ earlier then .error (.duplicateName (name a) owner)
    else do
      let node ← construct a
      let rest ← constructAll (name a :: earlier) as
      return (name a, node) :: rest

variable {name construct owner}

/-- Of the names of earlier siblings only their membership matters. -/
theorem constructAll_congr : ∀ {as : List α} {earlier earlier' : List String},
    (∀ n, n ∈ earlier ↔ n ∈ earlier') →
    constructAll name construct owner earlier as = constructAll name construct owner earlier' as
  | [], _, _, _ => rfl
  | a :: as, earlier, earlier', h => by
    have hrest : constructAll name construct owner (name a :: earlier) as =
        constructAll name construct owner (name a :: earlier') as :=
      constructAll_congr fun n => by rw [List.mem_cons, List.mem_cons, h]
    simp only [constructAll, h (name a), hrest]

/-- Children that are all constructed stand under their own names, which are new and different. -/
theorem constructAll_ok : ∀ {as : List α} {earlier : List String} {children : Children Node},
    constructAll name construct owner earlier as = .ok children →
    Forall₂ (fun a child => child.1 = name a ∧ construct a = .ok child.2) as children ∧
      ((earlier ++ children.keys).Nodup ↔ earlier.Nodup)
  | [], earlier, _, h => by
    cases h
    exact ⟨.nil, by rw [Children.keys_nil, List.append_nil]⟩
  | a :: as, earlier, children, h => by
    rw [constructAll] at h
    split at h
    · cases h
    · next hnew =>
      cases hn : construct a with
      | error e => rw [hn] at h; cases h
      | ok node =>
        cases hr : constructAll name construct owner (name a :: earlier) as with
        | error e => rw [hn, hr] at h; cases h
        | ok rest =>
          rw [hn, hr] at h
          cases h
          obtain ⟨hall, hnodup⟩ := constructAll_ok hr
          refine ⟨.cons ⟨rfl, hn⟩ hall, ?_⟩
          rw [Children.keys_cons, List.perm_middle.nodup_iff, ← List.cons_append, hnodup,
            List.nodup_cons]
          exact and_iff_right hnew

theorem keys_of_forall₂ {as : List α} {children : Children Node}
    (h : Forall₂ (fun a child => child.1 = name a ∧ construct a = .ok child.2) as children) :
    children.keys = as.map name := by
  induction h with
  | nil => rfl
  | cons hd _ ih => rw [Children.keys_cons, List.map_cons, hd.1, ih]

end All

theorem constructAttributes_eq {owner : String} : ∀ {as : List Attribute} {earlier : List String},
    constructAttributes owner earlier as =
      constructAll Attribute.name Attribute.construct owner earlier as
  | [], _ => rfl
  | a :: as, earlier => by
    have hrest : constructAttributes owner (a.name :: earlier) as =
        constructAll Attribute.name Attribute.construct owner (a.name :: earlier) as :=
      constructAttributes_eq
    rw [constructAttributes, constructAll, hrest]

theorem constructBlocks_eq {owner : String} : ∀ {bs : List Block} {earlier : List String},
    constructBlocks owner earlier bs = constructAll Block.name Block.construct owner earlier bs
  | [], _ => rfl
  | b :: bs, earlier => by
    have hrest : constructBlocks owner (b.name :: earlier) bs =
        constructAll Block.name Block.construct owner (b.name :: earlier) bs :=
      constructBlocks_eq
    rw [constructBlocks, constructAll, hrest]

/-! ### The objects that wait -/

/-- Builds the children that are left of one object. -/
def Frame.finish (frame : Frame) : Generated (NestedObject Node) := do
  let attributes ←
    constructAttributes frame.owner (Children.keys frame.object.attributes) frame.attributes
  let object := frame.object.withChildren attributes []
  let blocks ← constructBlocks frame.owner
    (Children.keys object.attributes ++ Children.keys object.blocks) frame.blocks
  return object.withChildren [] blocks

/-- Hands a finished object to the object that waits for it, and goes on outwards. -/
def Waiting.resume : Waiting → NestedObject Node → Generated (NestedObject Node)
  | [], object => .ok object
  | (head, parent) :: waiting, object => do
    let node := Node.nested head.kind head.facets object
    let whole ← { parent with object := parent.object.put head.name node }.finish
    Waiting.resume waiting whole

/-- What a shell and the objects below it become. -/
def Shell.finish : Shell → Generated Node
  | .leaf node => .ok node
  | .nested head frame => Node.nested head.kind head.facets <$> frame.finish

namespace NestedObject

/-- A child that is put into an object is one more child. -/
theorem put_attribute (object : NestedObject Node) (name : String) {node : Node}
    (h : node.kind.isBlock = false) :
    object.put name node = object.withChildren [(name, node)] [] := by
  simp [put, h, withChildren]

theorem put_block (object : NestedObject Node) (name : String) {node : Node}
    (h : node.kind.isBlock = true) :
    object.put name node = object.withChildren [] [(name, node)] := by
  simp [put, h, withChildren]

end NestedObject

namespace Frame

variable {owner : String} {object : NestedObject Node} {a : Attribute} {as : List Attribute}
  {b : Block} {bs : List Block}

/-- An attribute of a new name is constructed and then stands among the attributes. -/
theorem finish_attribute (h : ¬ Children.hasKey object.attributes a.name) :
    finish ⟨owner, object, a :: as, bs⟩ = a.construct >>= fun node =>
      finish ⟨owner, object.withChildren [(a.name, node)] [], as, bs⟩ := by
  have hnew : a.name ∉ Children.keys object.attributes := fun hin => h (Children.hasKey_iff.mpr hin)
  simp only [finish, constructAttributes_eq]
  rw [constructAll, if_neg hnew]
  simp only [bind_assoc, pure_bind]
  refine bind_congr fun node => ?_
  -- the names that are taken are those of the map that has the new child
  have hkeys : ∀ n, n ∈ a.name :: Children.keys object.attributes ↔
      n ∈ Children.keys (object.withChildren [(a.name, node)] []).attributes := fun n => by
    rw [List.mem_cons]
    exact Children.mem_keys_put.symm
  rw [constructAll_congr hkeys]
  rfl

theorem finish_attribute_taken (h : Children.hasKey object.attributes a.name) :
    finish ⟨owner, object, a :: as, bs⟩ = .error (.duplicateName a.name owner) := by
  simp only [finish]
  rw [constructAttributes, if_pos (Children.hasKey_iff.mp h)]
  rfl

theorem mem_names_iff : b.name ∈ Children.keys object.attributes ++ Children.keys object.blocks ↔
    Children.hasKey object.attributes b.name || Children.hasKey object.blocks b.name := by
  rw [List.mem_append, ← Children.hasKey_iff, ← Children.hasKey_iff, ← Bool.or_eq_true]

theorem finish_blocks : finish ⟨owner, object, [], bs⟩ =
    constructBlocks owner (Children.keys object.attributes ++ Children.keys object.blocks) bs >>=
      fun blocks => .ok (object.withChildren [] blocks) := rfl

/-- Once the attributes are done, a block of a new name is constructed and stands among the
blocks. -/
theorem finish_block
    (h : ¬ (Children.hasKey object.attributes b.name || Children.hasKey object.blocks b.name)) :
    finish ⟨owner, object, [], b :: bs⟩ = b.construct >>= fun node =>
      finish ⟨owner, object.withChildren [] [(b.name, node)], [], bs⟩ := by
  simp only [finish_blocks, constructBlocks_eq]
  rw [constructAll, if_neg fun hin => h (mem_names_iff.mp hin)]
  simp only [bind_assoc, pure_bind]
  refine bind_congr fun node => ?_
  have hkeys : ∀ n, n ∈ b.name :: (Children.keys object.attributes ++ Children.keys object.blocks) ↔
      n ∈ Children.keys (object.withChildren [] [(b.name, node)]).attributes ++
        Children.keys (object.withChildren [] [(b.name, node)]).blocks := fun n => by
    have hput : n ∈ Children.keys (object.withChildren [] [(b.name, node)]).blocks ↔
        n = b.name ∨ n ∈ Children.keys object.blocks := Children.mem_keys_put
    rw [List.mem_cons, List.mem_append, List.mem_append, hput, or_left_comm]
    rfl
  rw [constructAll_congr hkeys]
  rfl

theorem finish_block_taken
    (h : Children.hasKey object.attributes b.name || Children.hasKey object.blocks b.name) :
    finish ⟨owner, object, [], b :: bs⟩ = .error (.duplicateName b.name owner) := by
  rw [finish_blocks, constructBlocks, if_pos (mem_names_iff.mpr h)]
  rfl

end Frame

/-! ### What is declared -/

/-- The attributes that are declared for the object of an attribute. -/
def Attribute.attributes : Attribute → List Attribute
  | .mk _ (.leaf _) | .mk _ (.nested _ _ none) => []
  | .mk _ (.nested _ _ (some object)) => object.attributes
  | .mk _ (.single _ _ attributes) => attributes

/-- The attributes that are declared for the object of a block. -/
def Block.attributes : Block → List Attribute
  | .mk _ (.nested _ _ none) => []
  | .mk _ (.nested _ _ (some object)) => object.attributes
  | .mk _ (.single _ _ attributes _) => attributes

/-- The blocks that are declared for the object of a block. -/
def Block.blocks : Block → List Block
  | .mk _ (.nested _ _ none) => []
  | .mk _ (.nested _ _ (some object)) => object.blocks
  | .mk _ (.single _ _ _ blocks) => blocks

def Leaf.kind : Leaf → NodeKind
  | .bool _ => .scalar .bool
  | .float64 _ => .scalar .float64
  | .int64 _ => .scalar .int64
  | .number _ => .scalar .number
  | .string _ => .scalar .string
  | .collection shape _ _ => .collection shape
  | .object _ _ => .object

/-- The kind that is declared for an attribute. -/
def Attribute.kind : Attribute → NodeKind
  | .mk _ (.leaf leaf) => leaf.kind
  | .mk _ (.nested shape _ _) => .nested (.attributes shape)
  | .mk _ (.single _ _ _) => .nested .singleAttribute

/-- The kind that is declared for a block. -/
def Block.kind : Block → NodeKind
  | .mk _ (.nested shape _ _) => .nested (.blocks shape)
  | .mk _ (.single _ _ _ _) => .nested .singleBlock

theorem Leaf.isBlock_kind (leaf : Leaf) : leaf.kind.isBlock = false := by
  cases leaf <;> rfl

theorem Attribute.isBlock_kind : ∀ a : Attribute, a.kind.isBlock = false
  | .mk _ (.leaf leaf) => leaf.isBlock_kind
  | .mk _ (.nested _ _ _) | .mk _ (.single _ _ _) => rfl

theorem Block.isBlock_kind : ∀ b : Block, b.kind.isBlock = true
  | .mk _ (.nested _ _ _) | .mk _ (.single _ _ _ _) => rfl

/-! ### Shells -/

/-- The facets of a node fit its kind: validators and plan modifiers are for the values of the kind,
and a single object has no custom type of its own beside that of the object. -/
structure NodeFacets.Fits (f : NodeFacets) (kind : NodeKind) : Prop where
  validators_kind : f.validators.kind = kind.valueKind
  planModifiers_kind : f.planModifiers.kind = kind.valueKind
  single_customType : kind.isSingle = true → f.customType = none

/-- Validators and plan modifiers of an object are for objects. -/
structure NestedObject.Fits (object : NestedObject Node) : Prop where
  validators_kind : object.validators.kind = .object
  planModifiers_kind : object.planModifiers.kind = .object

/-- The beginning of a nested node of some name and kind, for the children that are declared. -/
structure Head.Opens (head : Head) (frame : Frame) (name : String) (kind : NodeKind)
    (attributes : List Attribute) (blocks : List Block) : Prop where
  name_eq : head.name = name
  kind_eq : .nested head.kind = kind
  facets_fit : head.facets.Fits kind
  object_fits : frame.object.Fits
  attributes_eq : frame.attributes = attributes
  blocks_eq : frame.blocks = blocks
  no_attributes : frame.object.attributes = []
  no_blocks : frame.object.blocks = []

/-- The node of a leaf is of its kind and has no object. -/
theorem Leaf.build_ok {leaf : Leaf} {name : String} {node : Node} (h : leaf.build name = .ok node) :
    node.kind = leaf.kind ∧ node.facets.Fits leaf.kind ∧ node.object? = none := by
  have hsingle : leaf.kind.isSingle = true → node.facets.customType = none := by
    cases leaf <;> exact fun h => nomatch h
  unfold Leaf.build at h
  split at h <;> cases h <;> exact ⟨rfl, ⟨rfl, rfl, hsingle⟩, rfl⟩

/-- The shell of an attribute without an object is the node of a leaf. -/
theorem Attribute.shell_leaf : ∀ {a : Attribute} {node : Node}, a.shell = .ok (.leaf node) →
    node.kind = a.kind ∧ node.facets.Fits a.kind ∧ node.object? = none
  | .mk name (.leaf leaf), node, h => by
    simp only [Attribute.shell] at h
    cases hl : leaf.build name with
    | error e => rw [hl] at h; cases h
    | ok node' =>
      rw [hl] at h
      cases h
      exact Leaf.build_ok hl
  | .mk _ (.nested _ _ none), _, h => by cases h
  | .mk _ (.nested _ _ (some _)), _, h => by cases h
  | .mk _ (.single _ _ _), _, h => by cases h

theorem Attribute.shell_nested : ∀ {a : Attribute} {head : Head} {frame : Frame},
    a.shell = .ok (.nested head frame) → head.Opens frame a.name a.kind a.attributes []
  | .mk name (.leaf leaf), _, _, h => by
    simp only [Attribute.shell] at h
    cases hl : leaf.build name <;> rw [hl] at h <;> cases h
  | .mk _ (.nested _ _ none), _, _, h => by cases h
  | .mk _ (.nested _ _ (some _)), _, _, h => by
    cases h
    exact ⟨rfl, rfl, ⟨rfl, rfl, fun h => nomatch h⟩, ⟨rfl, rfl⟩, rfl, rfl, rfl, rfl⟩
  | .mk _ (.single _ _ _), _, _, h => by
    cases h
    exact ⟨rfl, rfl, ⟨rfl, rfl, fun _ => rfl⟩, ⟨rfl, rfl⟩, rfl, rfl, rfl, rfl⟩

theorem Block.shell_ne_leaf : ∀ {b : Block} {node : Node}, b.shell ≠ .ok (.leaf node)
  | .mk _ (.nested _ _ none), _, h => by cases h
  | .mk _ (.nested _ _ (some _)), _, h => by cases h
  | .mk _ (.single _ _ _ _), _, h => by cases h

theorem Block.shell_nested : ∀ {b : Block} {head : Head} {frame : Frame},
    b.shell = .ok (.nested head frame) → head.Opens frame b.name b.kind b.attributes b.blocks
  | .mk _ (.nested _ _ none), _, _, h => by cases h
  | .mk _ (.nested _ _ (some _)), _, _, h => by
    cases h
    exact ⟨rfl, rfl, ⟨rfl, rfl, fun h => nomatch h⟩, ⟨rfl, rfl⟩, rfl, rfl, rfl, rfl⟩
  | .mk _ (.single _ _ _ _), _, _, h => by
    cases h
    exact ⟨rfl, rfl, ⟨rfl, rfl, fun _ => rfl⟩, ⟨rfl, rfl⟩, rfl, rfl, rfl, rfl⟩

/-- The attributes of a fresh object have the names that are declared. -/
theorem constructBlocks_after {name : String} {attributes : List Attribute} {blocks : List Block}
    {as : Children Node} {object : NestedObject Node} (hattributes : object.attributes = [])
    (hblocks : object.blocks = []) (h : constructAttributes name [] attributes = .ok as) :
    constructBlocks name (Children.keys (object.withChildren as []).attributes ++
      Children.keys (object.withChildren as []).blocks) blocks =
    constructBlocks name (attributes.map Attribute.name) blocks := by
  rw [constructAttributes_eq] at h
  rw [constructBlocks_eq, constructBlocks_eq, ← keys_of_forall₂ (constructAll_ok h).1]
  refine constructAll_congr fun n => ?_
  simp only [NestedObject.withChildren, hattributes, hblocks, List.mem_append,
    Children.mem_keys_merge, Children.keys_nil, List.not_mem_nil, false_or, or_false,
    Children.merge_nil]

theorem Attribute.construct_eq : ∀ a : Attribute, a.construct = a.shell >>= Shell.finish
  | .mk name (.leaf leaf) => by
    show leaf.build name = (Shell.leaf <$> leaf.build name) >>= Shell.finish
    cases leaf.build name <;> rfl
  | .mk _ (.nested _ _ none) => rfl
  | .mk name (.nested _ _ (some ⟨_, attributes⟩)) | .mk name (.single _ _ attributes) => by
    rw [Attribute.construct]
    show _ = Node.nested _ _ <$> (constructAttributes name [] attributes >>= _)
    cases constructAttributes name [] attributes <;> rfl

theorem Block.construct_eq : ∀ b : Block, b.construct = b.shell >>= Shell.finish
  | .mk _ (.nested _ _ none) => rfl
  | .mk name (.nested _ _ (some ⟨_, attributes, blocks⟩))
  | .mk name (.single _ _ attributes blocks) => by
    rw [Block.construct]
    show _ = Node.nested _ _ <$> (constructAttributes name [] attributes >>= _)
    cases h : constructAttributes name [] attributes with
    | error e => rfl
    | ok as =>
      show (constructBlocks name _ blocks >>= _) =
        Node.nested _ _ <$> (constructBlocks name _ blocks >>= _)
      rw [constructBlocks_after rfl rfl h]
      cases constructBlocks name (attributes.map Attribute.name) blocks <;> rfl

/-! ### The stack is the recursion -/

/-- A child that is finished stands in the object that waits for it. -/
theorem Waiting.finish_resume (head : Head) (child parent : Frame) (waiting : Waiting) :
    child.finish >>= Waiting.resume ((head, parent) :: waiting) =
      ((Shell.nested head child).finish >>= fun node =>
        Frame.finish { parent with object := parent.object.put head.name node }) >>=
          Waiting.resume waiting := by
  rw [Shell.finish, map_eq_pure_bind, bind_assoc, bind_assoc]
  refine bind_congr fun whole => ?_
  rw [pure_bind]
  rfl

/-- What follows a nested shell sees nodes of its kind only. -/
theorem Shell.finish_bind_congr {α : Type} {head : Head} {child : Frame} {f g : Node → Generated α}
    (h : ∀ node, node.kind = .nested head.kind → f node = g node) :
    (Shell.nested head child).finish >>= f = (Shell.nested head child).finish >>= g := by
  rw [Shell.finish, map_eq_pure_bind, bind_assoc, bind_assoc]
  refine bind_congr fun whole => ?_
  rw [pure_bind, pure_bind, h _ rfl]

/-- **Objects that wait.**  Running a stack is finishing the innermost object by recursion and
handing it to the objects that wait, one after the other. -/
theorem Frame.run_eq (frame : Frame) (waiting : Waiting) :
    frame.run waiting = frame.finish >>= Waiting.resume waiting := by
  fun_induction Frame.run frame waiting with
  | case1 waiting owner object a as bs h =>
    rw [finish_attribute_taken h]
    rfl
  | case2 waiting owner object a as bs h e hshell =>
    rw [finish_attribute h, a.construct_eq, hshell]
    rfl
  | case3 waiting owner object a as bs h node hshell ih =>
    have hblock : node.kind.isBlock = false := by
      rw [(Attribute.shell_leaf hshell).1]
      exact a.isBlock_kind
    rw [ih, finish_attribute h, a.construct_eq, hshell, object.put_attribute a.name hblock]
    rfl
  | case4 waiting owner object a as bs h head child hshell ih =>
    -- the child is finished first; then this object waits on top of the stack
    have hopens := Attribute.shell_nested hshell
    rw [ih, Waiting.finish_resume, finish_attribute h, a.construct_eq, hshell]
    refine congrArg (· >>= Waiting.resume waiting) (Shell.finish_bind_congr fun node hnode => ?_)
    have hblock : node.kind.isBlock = false := by
      rw [hnode, hopens.kind_eq]
      exact a.isBlock_kind
    rw [hopens.name_eq, object.put_attribute a.name hblock]
  | case5 waiting owner object b bs h =>
    rw [finish_block_taken h]
    rfl
  | case6 waiting owner object b bs h e hshell =>
    rw [finish_block h, b.construct_eq, hshell]
    rfl
  | case7 waiting owner object b bs h node hshell ih => exact absurd hshell Block.shell_ne_leaf
  | case8 waiting owner object b bs h head child hshell ih =>
    have hopens := Block.shell_nested hshell
    rw [ih, Waiting.finish_resume, finish_block h, b.construct_eq, hshell]
    refine congrArg (· >>= Waiting.resume waiting) (Shell.finish_bind_congr fun node hnode => ?_)
    have hblock : node.kind.isBlock = true := by
      rw [hnode, hopens.kind_eq]
      exact b.isBlock_kind
    rw [hopens.name_eq, object.put_block b.name hblock]
  | case9 owner object => rfl
  | case10 owner object head parent waiting node ih =>
    rw [ih]
    rfl

/-- Without objects that wait a stack is one object, finished by recursion. -/
theorem Frame.run_nil (frame : Frame) : frame.run [] = frame.finish := by
  rw [Frame.run_eq]
  exact bind_pure frame.finish

theorem Shell.build_eq : ∀ shell : Shell, shell.build = shell.finish
  | .leaf _ => rfl
  | .nested head frame => by rw [Shell.build, Frame.run_nil]; rfl

theorem Attribute.build_eq (a : Attribute) : a.build = a.construct := by
  rw [a.construct_eq, Attribute.build]
  exact bind_congr Shell.build_eq

theorem Block.build_eq (b : Block) : b.build = b.construct := by
  rw [b.construct_eq, Block.build]
  exact bind_congr Shell.build_eq

/-! ### An object by itself -/

/-- A node is of the kind that is declared. -/
theorem Attribute.kind_construct {a : Attribute} {node : Node} (h : a.construct = .ok node) :
    node.kind = a.kind := by
  rw [a.construct_eq] at h
  obtain ⟨shell, hshell, hfinish⟩ := bind_eq_ok.mp h
  cases shell with
  | leaf leaf =>
    cases hfinish
    exact (Attribute.shell_leaf hshell).1
  | nested head frame =>
    obtain ⟨object, -, rfl⟩ := map_eq_ok.mp hfinish
    exact (Attribute.shell_nested hshell).kind_eq

theorem Block.kind_construct {b : Block} {node : Node} (h : b.construct = .ok node) :
    node.kind = b.kind := by
  rw [b.construct_eq] at h
  obtain ⟨shell, hshell, hfinish⟩ := bind_eq_ok.mp h
  cases shell with
  | leaf leaf => exact absurd hshell Block.shell_ne_leaf
  | nested head frame =>
    obtain ⟨object, -, rfl⟩ := map_eq_ok.mp hfinish
    exact (Block.shell_nested hshell).kind_eq

/-- **A new stack for each child.**  Building the children of one object, each of them with a stack
of its own, is finishing the object by recursion. -/
theorem Frame.fill_eq (frame : Frame) : frame.fill = frame.finish := by
  fun_induction Frame.fill frame with
  | case1 owner object a as bs h => exact (finish_attribute_taken h).symm
  | case2 owner object a as bs h ih =>
    rw [finish_attribute h, a.build_eq]
    cases hnode : a.construct with
    | error e => rfl
    | ok node =>
      have hblock : node.kind.isBlock = false := by
        rw [a.kind_construct hnode]
        exact a.isBlock_kind
      have hput := object.put_attribute a.name hblock
      exact (ih node).trans (congrArg (fun o => finish ⟨owner, o, as, bs⟩) hput)
  | case3 owner object b bs h => exact (finish_block_taken h).symm
  | case4 owner object b bs h ih =>
    rw [finish_block h, b.build_eq]
    cases hnode : b.construct with
    | error e => rfl
    | ok node =>
      have hblock : node.kind.isBlock = true := by
        rw [b.kind_construct hnode]
        exact b.isBlock_kind
      have hput := object.put_block b.name hblock
      exact (ih node).trans (congrArg (fun o => finish ⟨owner, o, [], bs⟩) hput)
  | case5 owner object => rfl

theorem NestedObject.build_eq (parent : String) (attributes : List Attribute)
    (blocks : List Block) :
    NestedObject.build parent attributes blocks = Frame.finish ⟨parent, {}, attributes, blocks⟩ :=
  Frame.fill_eq _

end ProviderCode
