import ProviderCode.Proofs.DeclaredTypes
import ProviderCode.Proofs.SchemaSources

/-!
# The order of type pairs

Where an object stands in a tree is told by the steps that lead to it.  Of two places the first is
the one whose steps come first: a place before those below it, attributes before blocks, and
attributes and blocks in the order of their names.

Main statement: the type pairs of a node are those of the objects in its tree that no custom type
replaces, each once and for its own name, in the order of their places.
-/

namespace ProviderCode

/-! ### Steps -/

/-- From an object to one of its children. -/
inductive Step
  | attribute (name : String)
  | block (name : String)
deriving DecidableEq

/-- Attributes come before blocks. -/
def Step.Before : Step → Step → Prop
  | .attribute a, .attribute b => a < b
  | .attribute _, .block _ => True
  | .block _, .attribute _ => False
  | .block a, .block b => a < b

/-- The children of an object, each with the step that leads to it. -/
def NestedObject.steps (object : NestedObject Node) : List (Step × String × Node) :=
  object.attributes.map (fun child => (.attribute child.1, child)) ++
    object.blocks.map fun child => (.block child.1, child)

theorem NestedObject.mem_children_of_mem_steps {object : NestedObject Node}
    {step : Step × String × Node} (h : step ∈ object.steps) : step.2 ∈ object.children := by
  rcases List.mem_append.mp h with h | h
  · obtain ⟨child, hchild, rfl⟩ := List.mem_map.mp h
    exact List.mem_append_left _ hchild
  · obtain ⟨child, hchild, rfl⟩ := List.mem_map.mp h
    exact List.mem_append_right _ hchild

/-- Children in the order of their names are in the order of their steps. -/
theorem NestedObject.steps_pairwise {object : NestedObject Node}
    (hattributes : (Children.keys object.attributes).Pairwise (· < ·))
    (hblocks : (Children.keys object.blocks).Pairwise (· < ·)) :
    object.steps.Pairwise fun a b => a.1.Before b.1 := by
  have hfirst := List.pairwise_map.mp hattributes
  have hsecond := List.pairwise_map.mp hblocks
  refine List.pairwise_append.mpr ⟨List.pairwise_map.mpr hfirst, List.pairwise_map.mpr hsecond,
    fun a ha b hb => ?_⟩
  obtain ⟨child, -, rfl⟩ := List.mem_map.mp ha
  obtain ⟨other, -, rfl⟩ := List.mem_map.mp hb
  exact trivial

namespace Node

/-- Steps lead from one node to another, each node with the name under which it stands. -/
inductive LeadsTo : List Step → String × Node → String × Node → Prop
  | here (node : String × Node) : LeadsTo [] node node
  | down {step : Step} {steps : List Step} {node child target : String × Node}
      {object : NestedObject Node} (hobject : node.2.object? = some object)
      (hstep : (step, child) ∈ object.steps) (below : LeadsTo steps child target) :
      LeadsTo (step :: steps) node target

/-- The attributes and the blocks of each object in a tree are in the order of their names, and no
two have one name. -/
inductive Ordered : Node → Prop
  | intro {node : Node}
      (attributes : ∀ object, node.object? = some object →
        (Children.keys object.attributes).Pairwise (· < ·))
      (blocks : ∀ object, node.object? = some object →
        (Children.keys object.blocks).Pairwise (· < ·))
      (children : ∀ child ∈ node.children, child.2.Ordered) : node.Ordered

/-- Nodes that are built are in order. -/
theorem Built.ordered {node : Node} (h : node.Built) : node.Ordered := by
  have hreflects : ∀ object, node.object? = some object →
      (Children.keys object.attributes).Pairwise (· < ·) ∧
        (Children.keys object.blocks).Pairwise (· < ·) := by
    intro object hobject
    rcases h with ⟨a, ha⟩ | ⟨b, hb⟩
    · have hall := (a.holds_of_build ha).object_reflects object hobject
      exact ⟨hall.attributes_sorted, hall.blocks_sorted⟩
    · have hall := (b.holds_of_build hb).object_reflects object hobject
      exact ⟨hall.attributes_sorted, hall.blocks_sorted⟩
  refine .intro (fun object hobject => (hreflects object hobject).1)
    (fun object hobject => (hreflects object hobject).2) fun child hchild => ?_
  have hsmaller := size_lt_of_mem_children hchild
  exact (h.child hchild).ordered
termination_by node.size

end Node

/-! ### Places -/

/-- An object with its name, and the steps that lead to it. -/
structure OwnerPlace where
  steps : List Step
  owner : String × NestedObject Node

namespace OwnerPlace

/-- The place as it is seen from one step higher. -/
def under (step : Step) (place : OwnerPlace) : OwnerPlace :=
  { place with steps := step :: place.steps }

/-- The first difference of the steps decides; a place comes before those below it. -/
def Before (a b : OwnerPlace) : Prop := List.Lex Step.Before a.steps b.steps

theorem before_under {a : OwnerPlace} (h : a.steps = []) (step : Step) (b : OwnerPlace) :
    a.Before (b.under step) := by
  rw [Before, h]
  exact List.Lex.nil

theorem under_before {step : Step} {a b : OwnerPlace} (h : a.Before b) :
    (a.under step).Before (b.under step) := List.Lex.cons h

theorem under_before_of_step {s t : Step} (h : s.Before t) (a b : OwnerPlace) :
    (a.under s).Before (b.under t) := List.Lex.rel h

end OwnerPlace

namespace Node

mutual

/-- The places in a node's tree of the objects that a pair of types is made for. -/
def places (name : String) : Node → List OwnerPlace
  | .scalar _ _ | .collection _ _ _ | .object _ _ => []
  | .nested _ _ ⟨external, customType, planModifiers, validators, as, bs⟩ =>
    (if customType.isNone then
        [⟨[], name, ⟨external, customType, planModifiers, validators, as, bs⟩⟩]
      else []) ++ (placesBelow .attribute as ++ placesBelow .block bs)
termination_by structural node => node

/-- The places below children that steps of one sort lead to. -/
def placesBelow (step : String → Step) : Children Node → List OwnerPlace
  | [] => []
  | (name, node) :: rest =>
    (node.places name).map (OwnerPlace.under (step name)) ++ placesBelow step rest
termination_by structural children => children

end

theorem placesBelow_eq_flatMap (step : String → Step) (children : Children Node) :
    placesBelow step children =
      children.flatMap fun child => (child.2.places child.1).map (.under (step child.1)) := by
  induction children with
  | nil => rfl
  | cons child rest ih => rw [List.flatMap_cons, ← ih, placesBelow]

variable {node : Node} {object : NestedObject Node}

/-- A node has its own place, if it needs a pair, and those below it. -/
theorem places_eq (hobject : node.object? = some object) (name : String) :
    node.places name = (if object.generatesType then [⟨[], name, object⟩] else []) ++
      object.steps.flatMap fun step => (step.2.2.places step.2.1).map (.under step.1) := by
  cases node with
  | nested kind f body =>
    obtain rfl := Option.some.inj hobject
    rw [places, placesBelow_eq_flatMap, placesBelow_eq_flatMap, NestedObject.steps,
      List.flatMap_append, List.flatMap_map, List.flatMap_map]
    rfl
  | _ => exact absurd hobject.symm (Option.some_ne_none _)

theorem places_eq_nil (hobject : node.object? = none) (name : String) : node.places name = [] := by
  cases node with
  | nested kind f body => exact absurd hobject (Option.some_ne_none _)
  | _ => rfl

mutual

/-- The places hold the owners in preorder. -/
theorem owner_places (name : String) : (node : Node) →
    (node.places name).map (·.owner) = typeOwners (node.walk name)
  | .scalar _ _ | .collection _ _ _ | .object _ _ => rfl
  | .nested kind f ⟨external, customType, planModifiers, validators, as, bs⟩ => by
    rw [places, walk, List.map_append, List.map_append, owner_placesBelow, owner_placesBelow,
      ← typeOwners_append]
    cases customType <;> rfl
termination_by structural node => node

theorem owner_placesBelow (step : String → Step) : (children : Children Node) →
    (placesBelow step children).map (·.owner) = typeOwners (walkAll children)
  | [] => rfl
  | (name, node) :: rest => by
    rw [placesBelow, walkAll, typeOwners_append, List.map_append, List.map_map,
      owner_placesBelow step rest, ← owner_places name node]
    rfl
termination_by structural children => children

end

/-! ### Which places there are -/

/-- Where a place is, steps lead to an object that needs a pair. -/
theorem leadsTo_of_mem_places {name : String} {node : Node} {place : OwnerPlace}
    (h : place ∈ node.places name) :
    ∃ target, LeadsTo place.steps (name, node) (place.owner.1, target) ∧
      target.object? = some place.owner.2 ∧ place.owner.2.customType = none := by
  cases hobject : node.object? with
  | none =>
    rw [places_eq_nil hobject] at h
    exact absurd h List.not_mem_nil
  | some object =>
    rw [places_eq hobject, List.mem_append, List.mem_flatMap] at h
    rcases h with hown | ⟨⟨step, child⟩, hstep, hbelow⟩
    · split at hown
      case isTrue hplain =>
        obtain rfl := List.mem_singleton.mp hown
        exact ⟨node, .here _, hobject, Option.isNone_iff_eq_none.mp hplain⟩
      case isFalse => exact absurd hown List.not_mem_nil
    · obtain ⟨inner, hinner, rfl⟩ := List.mem_map.mp hbelow
      have hchild : child ∈ node.children := by
        rw [children_eq hobject]
        exact NestedObject.mem_children_of_mem_steps hstep
      have hsmaller := size_lt_of_mem_children hchild
      obtain ⟨target, hleads, howner⟩ := leadsTo_of_mem_places hinner
      exact ⟨target, .down hobject hstep hleads, howner⟩
termination_by node.size

theorem mem_places_of_leadsTo {steps : List Step} {start target : String × Node}
    (h : LeadsTo steps start target) (hobject : target.2.object? = some object)
    (hplain : object.customType = none) :
    ⟨steps, target.1, object⟩ ∈ start.2.places start.1 := by
  induction h with
  | here node =>
    rw [places_eq hobject, NestedObject.generatesType, hplain]
    exact List.mem_append_left _ List.mem_cons_self
  | down hparent hstep below ih =>
    rw [places_eq hparent]
    refine List.mem_append_right _ (List.mem_flatMap.mpr ⟨_, hstep, ?_⟩)
    exact List.mem_map_of_mem (ih hobject)

/-! ### Their order -/

/-- **Places are in order**, if names are. -/
theorem Ordered.places_pairwise (h : node.Ordered) :
    ∀ name, (node.places name).Pairwise OwnerPlace.Before := by
  induction h with
  | @intro node attributes blocks children ih =>
    intro name
    cases hobject : node.object? with
    | none =>
      rw [places_eq_nil hobject]
      exact List.Pairwise.nil
    | some object =>
      have hsteps := NestedObject.steps_pairwise (attributes object hobject) (blocks object hobject)
      rw [places_eq hobject, List.pairwise_append, List.pairwise_flatMap]
      refine ⟨?own, ⟨fun step hstep => ?inside, hsteps.imp fun {s t} hlt a ha b hb => ?across⟩,
        fun own hown place hplace => ?first⟩
      case own =>
        split
        · exact List.pairwise_singleton _ _
        · exact List.Pairwise.nil
      case inside =>
        have hchild := NestedObject.mem_children_of_mem_steps hstep
        rw [← children_eq hobject] at hchild
        exact List.pairwise_map.mpr ((ih step.2 hchild step.2.1).imp OwnerPlace.under_before)
      case across =>
        obtain ⟨a, -, rfl⟩ := List.mem_map.mp ha
        obtain ⟨b, -, rfl⟩ := List.mem_map.mp hb
        exact OwnerPlace.under_before_of_step hlt a b
      case first =>
        have hnil : own.steps = [] := by
          split at hown
          · rw [List.mem_singleton.mp hown]
          · exact absurd hown List.not_mem_nil
        obtain ⟨step, -, hplace⟩ := List.mem_flatMap.mp hplace
        obtain ⟨inner, -, rfl⟩ := List.mem_map.mp hplace
        exact OwnerPlace.before_under hnil step.1 inner

end Node

/-! ### The theorem -/

/-- **Order of type pairs.**  The type pairs of a node are made for the objects in its tree that
have no custom type, wherever they are: one pair each, for the name of the object and its own fields.
In a tree whose names are in order the pairs are in the order of the objects' places. -/
theorem typePairs_in_order (name : String) (node : Node) :
    node.typePairs name =
      .ok (String.join ((node.places name).map fun place => pairText place.owner)) ∧
    (∀ key (object : NestedObject Node), object.typePair key = .ok (pairText (key, object))) ∧
    (∀ steps key object, ⟨steps, key, object⟩ ∈ node.places name ↔
      (∃ target, Node.LeadsTo steps (name, node) (key, target) ∧ target.object? = some object) ∧
        object.customType = none) ∧
    (node.Ordered → (node.places name).Pairwise OwnerPlace.Before) := by
  refine ⟨?_, fun key object => object.typePair_eq_print key, fun steps key object => ⟨?_, ?_⟩,
    fun hordered => hordered.places_pairwise name⟩
  · rw [node.typePairs_eq_join, ← Node.owner_places, List.map_map]
    rfl
  · intro hmem
    obtain ⟨target, hleads, hobject, hplain⟩ := Node.leadsTo_of_mem_places hmem
    exact ⟨⟨target, hleads, hobject⟩, hplain⟩
  · rintro ⟨⟨target, hleads, hobject⟩, hplain⟩
    exact Node.mem_places_of_leadsTo hleads hobject hplain

/-- A block in which an object with a custom type holds one without, after an object of an earlier
name and before a block. -/
def orderedBlock : Block :=
  .mk "outer" (.single {} none
    [.mk "b" (.single
        { mode := .optional, customType := some { type := "T", valueType := "V" } } none
        [.mk "deep" (.single { mode := .optional } none [])]),
      .mk "flag" (.leaf (.bool { mode := .optional })),
      .mk "a" (.single { mode := .optional } none [])]
    [.mk "a_block" (.single {} none [] [])])

theorem typePairs_in_order_orderedBlock :
    ∃ node, orderedBlock.build = .ok node ∧ node.Ordered ∧
      (node.places "outer").Pairwise OwnerPlace.Before ∧
      node.typePairs "outer" =
        .ok (String.join ((node.places "outer").map fun place => pairText place.owner)) ∧
      (node.places "outer").map (fun place => (place.steps, place.owner.1)) = [([], "outer"),
        ([.attribute "a"], "a"), ([.attribute "b", .attribute "deep"], "deep"),
        ([.block "a_block"], "a_block")] := by
  have hbuild : orderedBlock.build = .ok _ := orderedBlock.build_eq.trans rfl
  have hbuilt : Node.Built _ := .inr ⟨orderedBlock, hbuild⟩
  obtain ⟨htext, -, -, hpairwise⟩ := typePairs_in_order "outer" _
  exact ⟨_, hbuild, hbuilt.ordered, hpairwise hbuilt.ordered, htext, by decide⟩

end ProviderCode
