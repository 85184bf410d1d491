import ProviderCode.Error
import ProviderCode.Node.Clause

/-!
# Building nodes

A node is built from the specification of an attribute or block. An object's attributes are built in
the order in which they are declared, and after them its blocks; each child with all its descendants
before the next one. The first fault in this order is the error: a name that a sibling already has,
or a part that the kind of the child needs and does not have.

Trees may be of any depth, so the objects that wait for a child are kept on a stack. An object that
is no node's builds its own children one by one, and for each of them starts a new stack.
-/

namespace ProviderCode

/-! ### Facets -/

namespace NodeFacets

/-- The facets of an attribute of some kind. -/
def ofAttribute {τ : Type} (kind : NodeKind) (literal : τ → DefaultValue)
    (f : AttributeFacets τ) : NodeFacets where
  mode := some f.mode
  customType := f.customType
  default := f.default.bind (Default.choose literal)
  deprecation := f.deprecation
  description := f.description
  planModifiers := .ofList kind.valueKind f.planModifiers
  sensitive := f.sensitive
  validators := .ofList kind.valueKind f.validators

/-- The facets of a block of some kind. -/
def ofBlock (kind : NodeKind) (f : BlockFacets) : NodeFacets where
  mode := f.mode
  customType := f.customType
  deprecation := f.deprecation
  description := f.description
  planModifiers := .ofList kind.valueKind f.planModifiers
  sensitive := f.sensitive
  validators := .ofList kind.valueKind f.validators

end NodeFacets

namespace NestedObject

variable {α : Type}

def withExternal (object : NestedObject α) (external : Option ExternalType) : NestedObject α :=
  { object with external }

def withCustomType (object : NestedObject α) (customType : Option CustomType) : NestedObject α :=
  { object with customType }

def withPlanModifiers (object : NestedObject α) (list : List Extension) : NestedObject α :=
  { object with planModifiers := .ofList .object list }

def withValidators (object : NestedObject α) (list : List Extension) : NestedObject α :=
  { object with validators := .ofList .object list }

/-- An object without children. -/
def ofFacets (f : ObjectFacets) : NestedObject α :=
  (((({} : NestedObject α).withExternal f.external).withCustomType f.customType).withPlanModifiers
    f.planModifiers).withValidators f.validators

/-- Puts a child among the attributes or blocks, in place of one that has its name. -/
def put (object : NestedObject Node) (name : String) (node : Node) : NestedObject Node :=
  if node.kind.isBlock then { object with blocks := Children.put name node object.blocks }
  else { object with attributes := Children.put name node object.attributes }

/-- Drops the children of a name. -/
def erase (object : NestedObject Node) (name : String) : NestedObject Node :=
  { object with
    attributes := Children.erase object.attributes name
    blocks := Children.erase object.blocks name }

end NestedObject

/-! ### One node -/

/-- A nested node without its object. -/
structure Head where
  name : String
  kind : NestedKind
  facets : NodeFacets

/-- An object of which some children are still to be built. -/
structure Frame where
  owner : String
  object : NestedObject Node
  attributes : List Attribute
  blocks : List Block

/-- A node without its descendants. -/
inductive Shell
  | leaf (node : Node)
  | nested (head : Head) (frame : Frame)

namespace Leaf

/-- The node of an attribute without children. -/
def build (name : String) : Leaf → Generated Node
  | .bool f => .ok (.scalar .bool (.ofAttribute (.scalar .bool) .bool f))
  | .float64 f => .ok (.scalar .float64 (.ofAttribute (.scalar .float64) .float64 f))
  | .int64 f => .ok (.scalar .int64 (.ofAttribute (.scalar .int64) .int64 f))
  | .number f => .ok (.scalar .number (.ofAttribute (.scalar .number) Empty.elim f))
  | .string f => .ok (.scalar .string (.ofAttribute (.scalar .string) .string f))
  | .collection shape f (some element) =>
    .ok (.collection shape (.ofAttribute (.collection shape) Empty.elim f) element)
  | .collection shape _ none =>
    .error (.missingPart name (NodeKind.collection shape).name "element_type")
  | .object f (some attributes) =>
    .ok (.object (.ofAttribute .object Empty.elim f) (ElementType.byName attributes))
  | .object _ none => .error (.missingPart name NodeKind.object.name "attribute_types")

end Leaf

/-- The node of an attribute, its children still to be built. -/
def Attribute.shell : Attribute → Generated Shell
  | .mk name (.leaf leaf) => .leaf <$> leaf.build name
  | .mk name (.nested shape f object) =>
    let kind := NestedKind.attributes shape
    match object with
    | none => .error (.missingPart name kind.name "nested_object")
    | some o =>
      .ok (.nested ⟨name, kind, .ofAttribute (.nested kind) Empty.elim f⟩
        ⟨name, .ofFacets o.toObjectFacets, o.attributes, []⟩)
  | .mk name (.single f external attributes) =>
    let kind := NestedKind.singleAttribute
    let object := (({} : NestedObject Node).withExternal external).withCustomType f.customType
    let facets := { NodeFacets.ofAttribute (.nested kind) Empty.elim f with customType := none }
    .ok (.nested ⟨name, kind, facets⟩ ⟨name, object, attributes, []⟩)

/-- The node of a block, its children still to be built. -/
def Block.shell : Block → Generated Shell
  | .mk name (.nested shape f object) =>
    let kind := NestedKind.blocks shape
    match object with
    | none => .error (.missingPart name kind.name "nested_object")
    | some o =>
      .ok (.nested ⟨name, kind, .ofBlock (.nested kind) f⟩
        ⟨name, .ofFacets o.toObjectFacets, o.attributes, o.blocks⟩)
  | .mk name (.single f external attributes blocks) =>
    let kind := NestedKind.singleBlock
    let object := (({} : NestedObject Node).withExternal external).withCustomType f.customType
    let facets := { NodeFacets.ofBlock (.nested kind) f with customType := none }
    .ok (.nested ⟨name, kind, facets⟩ ⟨name, object, attributes, blocks⟩)

/-! ### The work left -/

mutual

/-- The steps that building an attribute takes. -/
def Attribute.steps : Attribute → Nat
  | .mk _ (.leaf _) | .mk _ (.nested _ _ none) => 1
  | .mk _ (.nested _ _ (some ⟨_, attributes⟩)) | .mk _ (.single _ _ attributes) =>
    2 + attributeSteps attributes
termination_by structural a => a

def attributeSteps : List Attribute → Nat
  | [] => 0
  | a :: as => a.steps + attributeSteps as
termination_by structural as => as

end

mutual

/-- The steps that building a block takes. -/
def Block.steps : Block → Nat
  | .mk _ (.nested _ _ none) => 1
  | .mk _ (.nested _ _ (some ⟨_, attributes, blocks⟩)) | .mk _ (.single _ _ attributes blocks) =>
    2 + attributeSteps attributes + blockSteps blocks
termination_by structural b => b

def blockSteps : List Block → Nat
  | [] => 0
  | b :: bs => b.steps + blockSteps bs
termination_by structural bs => bs

end

/-- The steps that an object still takes. -/
def Frame.steps (frame : Frame) : Nat :=
  1 + attributeSteps frame.attributes + blockSteps frame.blocks

/-- The objects that wait, each with the child it waits for. -/
abbrev Waiting := List (Head × Frame)

/-- The steps that the waiting objects still take. -/
def Waiting.steps : Waiting → Nat
  | [] => 0
  | (_, frame) :: waiting => frame.steps + Waiting.steps waiting

theorem Attribute.steps_pos (a : Attribute) : 0 < a.steps := by
  unfold Attribute.steps
  split <;> omega

theorem Block.steps_pos (b : Block) : 0 < b.steps := by
  unfold Block.steps
  split <;> omega

theorem Attribute.steps_shell {a : Attribute} {head : Head} {frame : Frame}
    (h : a.shell = .ok (.nested head frame)) : frame.steps < a.steps := by
  unfold Attribute.shell at h
  split at h
  · simp only [Functor.map, Except.map] at h
    split at h <;> cases h
  · next object =>
    cases object with
    | none => simp at h
    | some o =>
      cases h
      cases o
      simp only [Frame.steps, Attribute.steps, blockSteps]
      omega
  · cases h
    simp only [Frame.steps, Attribute.steps, blockSteps]
    omega

theorem Block.steps_shell {b : Block} {head : Head} {frame : Frame}
    (h : b.shell = .ok (.nested head frame)) : frame.steps < b.steps := by
  unfold Block.shell at h
  split at h
  · next object =>
    cases object with
    | none => simp at h
    | some o =>
      cases h
      cases o
      simp only [Frame.steps, Block.steps]
      omega
  · cases h
    simp only [Frame.steps, Block.steps]
    omega

/-! ### All descendants -/

namespace Frame

/-- Builds the children that are left, and then those of the objects that wait; the result is the
outermost object. -/
def run (frame : Frame) (waiting : Waiting) : Generated (NestedObject Node) :=
  match frame with
  | ⟨owner, object, a :: attributes, blocks⟩ =>
    if Children.hasKey object.attributes a.name then .error (.duplicateName a.name owner)
    else
      match _ : a.shell with
      | .error e => .error e
      | .ok (.leaf node) => run ⟨owner, object.put a.name node, attributes, blocks⟩ waiting
      | .ok (.nested head child) =>
        run child ((head, ⟨owner, object, attributes, blocks⟩) :: waiting)
  | ⟨owner, object, [], b :: blocks⟩ =>
    if Children.hasKey object.attributes b.name || Children.hasKey object.blocks b.name then
      .error (.duplicateName b.name owner)
    else
      match _ : b.shell with
      | .error e => .error e
      | .ok (.leaf node) => run ⟨owner, object.put b.name node, [], blocks⟩ waiting
      | .ok (.nested head child) => run child ((head, ⟨owner, object, [], blocks⟩) :: waiting)
  | ⟨_, object, [], []⟩ =>
    match waiting with
    | [] => .ok object
    | (head, parent) :: waiting =>
      let node := Node.nested head.kind head.facets object
      run { parent with object := parent.object.put head.name node } waiting
termination_by frame.steps + Waiting.steps waiting
decreasing_by
  · have := a.steps_pos
    simp only [Frame.steps, attributeSteps]
    omega
  · have := Attribute.steps_shell ‹_›
    simp only [Frame.steps, attributeSteps, Waiting.steps] at this ⊢
    omega
  · have := b.steps_pos
    simp only [Frame.steps, blockSteps]
    omega
  · have := Block.steps_shell ‹_›
    simp only [Frame.steps, blockSteps, Waiting.steps] at this ⊢
    omega
  · simp only [Frame.steps, Waiting.steps, attributeSteps, blockSteps]
    omega

end Frame

/-- Builds all descendants of a node. -/
def Shell.build : Shell → Generated Node
  | .leaf node => .ok node
  | .nested head frame => Node.nested head.kind head.facets <$> frame.run []

/-- Builds an attribute with all its descendants. -/
def Attribute.build (a : Attribute) : Generated Node := a.shell >>= Shell.build

/-- Builds a block with all its descendants. -/
def Block.build (b : Block) : Generated Node := b.shell >>= Shell.build

/-! ### An object by itself -/

/-- Builds the children that are left, each one with all its descendants before the next one. -/
def Frame.fill (frame : Frame) : Generated (NestedObject Node) :=
  match frame with
  | ⟨owner, object, a :: attributes, blocks⟩ =>
    if Children.hasKey object.attributes a.name then .error (.duplicateName a.name owner)
    else do
      let node ← a.build
      fill ⟨owner, object.put a.name node, attributes, blocks⟩
  | ⟨owner, object, [], b :: blocks⟩ =>
    if Children.hasKey object.attributes b.name || Children.hasKey object.blocks b.name then
      .error (.duplicateName b.name owner)
    else do
      let node ← b.build
      fill ⟨owner, object.put b.name node, [], blocks⟩
  | ⟨_, object, [], []⟩ => .ok object
termination_by frame.attributes.length + frame.blocks.length

/-- Builds the children of the object named `parent`. -/
def NestedObject.build (parent : String) (attributes : List Attribute) (blocks : List Block) :
    Generated (NestedObject Node) :=
  Frame.fill ⟨parent, {}, attributes, blocks⟩

end ProviderCode
