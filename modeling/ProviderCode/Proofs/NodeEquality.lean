import Mathlib.Data.List.Sort
import ProviderCode.Node.Equality
import ProviderCode.Proofs.FacetEquality
import ProviderCode.Proofs.Children

/-!
# Equality of nodes by recursion

What comparing nodes with a list of pairs means without the list.  Nodes are the same if their
kinds, facets and contents are, the names of their attributes and of their blocks are, and the
children under one name are the same.

Main statement: the list of pairs decides this, so does comparing objects, and the relation is
symmetric, transitive and, where all float defaults are numbers, reflexive.
-/

namespace ProviderCode

mutual

/-- Nodes that are the same, by recursion. -/
def Node.Same : Node → Node → Prop
  | .scalar t f, .scalar t' f' => t = t' ∧ (f == f') = true
  | .collection s f e, .collection s' f' e' => s = s' ∧ (f == f') = true ∧ e = e'
  | .object f as, .object f' as' => (f == f') = true ∧ as = as'
  | .nested k f ⟨external, custom, plans, validators, as, bs⟩,
      .nested k' f' ⟨external', custom', plans', validators', as', bs'⟩ =>
    k = k' ∧ (f == f') = true ∧ external = external' ∧ custom = custom' ∧
      (plans == plans') = true ∧ (validators == validators') = true ∧
      SameChildren as as' ∧ SameChildren bs bs'
  | _, _ => False
termination_by structural a => a

/-- Children of the same names, and the same child under each of them. -/
def SameChildren : Children Node → Children Node → Prop
  | [], [] => True
  | (name, a) :: as, (name', b) :: bs => name = name' ∧ a.Same b ∧ SameChildren as bs
  | _, _ => False
termination_by structural as => as

end

/-! ### Symmetry, transitivity, reflexivity -/

mutual

theorem Node.Same.symm : ∀ {a b : Node}, a.Same b → b.Same a
  | .scalar _ _, b, h => by
    cases b <;> simp only [Node.Same] at h ⊢
    exact ⟨h.1.symm, PartialEquivBEq.symm h.2⟩
  | .collection _ _ _, b, h => by
    cases b <;> simp only [Node.Same] at h ⊢
    exact ⟨h.1.symm, PartialEquivBEq.symm h.2.1, h.2.2.symm⟩
  | .object _ _, b, h => by
    cases b <;> simp only [Node.Same] at h ⊢
    exact ⟨PartialEquivBEq.symm h.1, h.2.symm⟩
  | .nested _ _ ⟨_, _, _, _, _, _⟩, b, h => by
    cases b <;> simp only [Node.Same] at h ⊢
    obtain ⟨hk, hf, he, hc, hp, hv, has, hbs⟩ := h
    exact ⟨hk.symm, PartialEquivBEq.symm hf, he.symm, hc.symm, PartialEquivBEq.symm hp,
      PartialEquivBEq.symm hv, SameChildren.symm has, SameChildren.symm hbs⟩

theorem SameChildren.symm : ∀ {as bs : Children Node}, SameChildren as bs → SameChildren bs as
  | [], bs, h => by
    cases bs <;> simp only [SameChildren] at h ⊢
  | (_, _) :: _, bs, h => by
    cases bs <;> simp only [SameChildren] at h ⊢
    exact ⟨h.1.symm, h.2.1.symm, SameChildren.symm h.2.2⟩

end

mutual

theorem Node.Same.trans : ∀ {a b c : Node}, a.Same b → b.Same c → a.Same c
  | .scalar _ _, b, c, h, h' => by
    cases b <;> simp only [Node.Same] at h
    cases c <;> simp only [Node.Same] at h' ⊢
    exact ⟨h.1.trans h'.1, PartialEquivBEq.trans h.2 h'.2⟩
  | .collection _ _ _, b, c, h, h' => by
    cases b <;> simp only [Node.Same] at h
    cases c <;> simp only [Node.Same] at h' ⊢
    exact ⟨h.1.trans h'.1, PartialEquivBEq.trans h.2.1 h'.2.1, h.2.2.trans h'.2.2⟩
  | .object _ _, b, c, h, h' => by
    cases b <;> simp only [Node.Same] at h
    cases c <;> simp only [Node.Same] at h' ⊢
    exact ⟨PartialEquivBEq.trans h.1 h'.1, h.2.trans h'.2⟩
  | .nested _ _ ⟨_, _, _, _, _, _⟩, b, c, h, h' => by
    cases b <;> simp only [Node.Same] at h
    cases c <;> simp only [Node.Same] at h' ⊢
    obtain ⟨hk, hf, he, hc, hp, hv, has, hbs⟩ := h
    obtain ⟨hk', hf', he', hc', hp', hv', has', hbs'⟩ := h'
    exact ⟨hk.trans hk', PartialEquivBEq.trans hf hf', he.trans he', hc.trans hc',
      PartialEquivBEq.trans hp hp', PartialEquivBEq.trans hv hv', SameChildren.trans has has',
      SameChildren.trans hbs hbs'⟩

theorem SameChildren.trans : ∀ {as bs cs : Children Node}, SameChildren as bs →
    SameChildren bs cs → SameChildren as cs
  | [], bs, cs, h, h' => by
    cases bs <;> simp only [SameChildren] at h
    exact h'
  | (_, _) :: _, bs, cs, h, h' => by
    cases bs <;> simp only [SameChildren] at h
    cases cs <;> simp only [SameChildren] at h' ⊢
    exact ⟨h.1.trans h'.1, h.2.1.trans h'.2.1, SameChildren.trans h.2.2 h'.2.2⟩

end

mutual

/-- All float defaults in a tree are numbers. -/
def Node.NumberDefaults : Node → Prop
  | .scalar _ f | .collection _ f _ | .object f _ => f.NumberDefault
  | .nested _ f ⟨_, _, _, _, as, bs⟩ => f.NumberDefault ∧ NumberChildren as ∧ NumberChildren bs
termination_by structural node => node

/-- All float defaults in several trees are numbers. -/
def NumberChildren : Children Node → Prop
  | [] => True
  | (_, node) :: rest => node.NumberDefaults ∧ NumberChildren rest
termination_by structural children => children

end

mutual

theorem Node.same_self_iff : ∀ {a : Node}, a.Same a ↔ a.NumberDefaults
  | .scalar _ _ => by
    simp only [Node.Same, Node.NumberDefaults, true_and]
    exact NodeFacets.beq_self_iff
  | .collection _ _ _ => by
    simp only [Node.Same, Node.NumberDefaults, true_and, and_true]
    exact NodeFacets.beq_self_iff
  | .object _ _ => by
    simp only [Node.Same, Node.NumberDefaults, and_true]
    exact NodeFacets.beq_self_iff
  | .nested _ _ ⟨_, _, _, _, as, bs⟩ => by
    simp only [Node.Same, Node.NumberDefaults, true_and, BEq.rfl, NodeFacets.beq_self_iff,
      sameChildren_self_iff]

theorem sameChildren_self_iff : ∀ {as : Children Node}, SameChildren as as ↔ NumberChildren as
  | [] => Iff.rfl
  | (_, a) :: as => by
    simp only [SameChildren, NumberChildren, true_and, Node.same_self_iff, sameChildren_self_iff]

end

/-! ### Pairs -/

theorem NestedObject.sameShell_iff {x y : NestedObject Node} : x.sameShell y = true ↔
    x.external = y.external ∧ x.customType = y.customType ∧
      (x.planModifiers == y.planModifiers) = true ∧ (x.validators == y.validators) = true ∧
      Children.keys x.attributes = Children.keys y.attributes ∧
      Children.keys x.blocks = Children.keys y.blocks := by
  simp only [NestedObject.sameShell, Bool.and_eq_true, beq_iff_eq, and_assoc]

/-- The same children are the same names with the same nodes side by side. -/
theorem sameChildren_iff_pairs {as bs : Children Node} : SameChildren as bs ↔
    as.keys = bs.keys ∧ ∀ p ∈ Node.pairs as bs, p.1.Same p.2 := by
  induction as generalizing bs with
  | nil =>
    cases bs with
    | nil => simp [SameChildren, Node.pairs, Children.values]
    | cons other bs => simp [SameChildren]
  | cons child as ih =>
    cases bs with
    | nil => simp [SameChildren]
    | cons other bs =>
      have hpairs : Node.pairs (child :: as) (other :: bs) =
          (child.2, other.2) :: Node.pairs as bs := rfl
      simp only [SameChildren, hpairs, ih, Children.keys_cons, List.cons.injEq,
        List.forall_mem_cons]
      constructor
      · rintro ⟨hname, hab, hkeys, hall⟩
        exact ⟨⟨hname, hkeys⟩, hab, hall⟩
      · rintro ⟨⟨hname, hkeys⟩, hab, hall⟩
        exact ⟨hname, hab, hkeys, hall⟩

/-- The children of two objects side by side, if these have the same attributes. -/
theorem pairs_children {x y : NestedObject Node}
    (h : Children.keys x.attributes = Children.keys y.attributes) :
    Node.pairs x.children y.children =
      Node.pairs x.attributes y.attributes ++ Node.pairs x.blocks y.blocks := by
  have hlength : (Children.values x.attributes).length = (Children.values y.attributes).length := by
    have hkeys := congrArg List.length h
    simpa only [Children.keys, Children.values, List.length_map] using hkeys
  simp only [Node.pairs, NestedObject.children, Children.values, List.map_append] at hlength ⊢
  exact List.zip_append hlength

/-- Nested nodes are the same if they are apart from their children, and these are side by side. -/
theorem Node.same_nested {k k' : NestedKind} {f f' : NodeFacets} {x y : NestedObject Node} :
    (Node.nested k f x).Same (.nested k' f' y) ↔
      (Node.nested k f x).sameShell (.nested k' f' y) = true ∧ x.sameShell y = true ∧
        ∀ p ∈ pairs x.children y.children, p.1.Same p.2 := by
  simp only [Node.Same, Node.sameShell, NestedObject.sameShell_iff, sameChildren_iff_pairs,
    Bool.and_eq_true, beq_iff_eq]
  constructor
  · rintro ⟨hk, hf, he, hc, hp, hv, ⟨hkeys, hall⟩, hkeysb, hallb⟩
    refine ⟨⟨hk, hf⟩, ⟨he, hc, hp, hv, hkeys, hkeysb⟩, ?_⟩
    rw [pairs_children hkeys]
    exact List.forall_mem_append.mpr ⟨hall, hallb⟩
  · rintro ⟨⟨hk, hf⟩, ⟨he, hc, hp, hv, hkeys, hkeysb⟩, hall⟩
    rw [pairs_children hkeys] at hall
    obtain ⟨hall, hallb⟩ := List.forall_mem_append.mp hall
    exact ⟨hk, hf, he, hc, hp, hv, ⟨hkeys, hall⟩, hkeysb, hallb⟩

theorem Node.Same.sameShell : ∀ {a b : Node}, a.Same b → a.sameShell b = true
  | .scalar _ _, b, h => by
    cases b <;> simp only [Node.Same] at h
    simpa only [Node.sameShell, Bool.and_eq_true, beq_iff_eq] using h
  | .collection _ _ _, b, h => by
    cases b <;> simp only [Node.Same] at h
    simpa only [Node.sameShell, Bool.and_eq_true, beq_iff_eq, and_assoc] using h
  | .object _ _, b, h => by
    cases b <;> simp only [Node.Same] at h
    simpa only [Node.sameShell, Bool.and_eq_true, beq_iff_eq] using h
  | .nested _ _ _, .nested _ _ _, h => (same_nested.mp h).1
  | .nested _ _ _, .scalar _ _, h | .nested _ _ _, .collection _ _ _, h
  | .nested _ _ _, .object _ _, h => by
    simp only [Node.Same] at h

/-- Nodes without objects are the same if their shells are. -/
theorem Node.same_iff_of_leaf {a b : Node} (ha : a.object? = none) :
    a.Same b ↔ a.sameShell b = true := by
  refine ⟨Node.Same.sameShell, fun h => ?_⟩
  cases a with
  | nested k f x => cases ha
  | _ =>
    cases b <;> simp only [Node.sameShell, Bool.and_eq_true, beq_iff_eq, Bool.false_eq_true] at h
    simpa only [Node.Same, and_assoc] using h

theorem Node.object?_eq_some {node : Node} {object : NestedObject Node}
    (h : node.object? = some object) : ∃ k f, node = .nested k f object := by
  cases node <;> cases h
  exact ⟨_, _, rfl⟩

/-! ### The list of pairs -/

/-- **The list of pairs.**  All pairs are equal exactly if both nodes of each one are the same. -/
theorem Node.allEqual_iff (pending : List (Node × Node)) :
    allEqual pending = true ↔ ∀ p ∈ pending, p.1.Same p.2 := by
  fun_induction allEqual pending with
  | case1 => exact iff_of_true rfl fun _ hp => absurd hp List.not_mem_nil
  | case2 a b pending hshell =>
    refine iff_of_false Bool.false_ne_true fun h => ?_
    rw [(h _ List.mem_cons_self).sameShell] at hshell
    cases hshell
  | case3 a b pending hshell x y ha hb hxy ih =>
    -- the pairs of children take the place of their parents
    obtain ⟨k, f, rfl⟩ := object?_eq_some ha
    obtain ⟨k', f', rfl⟩ := object?_eq_some hb
    rw [Bool.not_eq_true', Bool.not_eq_false] at hshell
    rw [ih, List.forall_mem_append, List.forall_mem_cons, same_nested]
    constructor
    · rintro ⟨hall, hrest⟩
      exact ⟨⟨hshell, hxy, hall⟩, hrest⟩
    · rintro ⟨⟨-, -, hall⟩, hrest⟩
      exact ⟨hall, hrest⟩
  | case4 a b pending hshell x y ha hb hxy =>
    obtain ⟨k, f, rfl⟩ := object?_eq_some ha
    obtain ⟨k', f', rfl⟩ := object?_eq_some hb
    refine iff_of_false Bool.false_ne_true fun h => hxy ?_
    exact (same_nested.mp (h _ List.mem_cons_self)).2.1
  | case5 a b pending hshell ha hb ih =>
    rw [Bool.not_eq_true', Bool.not_eq_false] at hshell
    rw [ih, List.forall_mem_cons, same_iff_of_leaf ha]
    exact (and_iff_right hshell).symm
  | case6 a b pending hshell hsome hnone =>
    refine iff_of_false Bool.false_ne_true fun h => ?_
    have hab : a.Same b := h _ List.mem_cons_self
    cases a <;> cases b <;> simp only [Node.Same] at hab
    · exact hnone rfl rfl
    · exact hnone rfl rfl
    · exact hnone rfl rfl
    · exact hsome _ _ rfl rfl

theorem Node.equal_iff {a b : Node} : a.equal b = true ↔ a.Same b := by
  rw [equal, allEqual_iff, List.forall_mem_singleton]

/-- Nested nodes are equal if their kinds and facets are and their objects are. -/
theorem Node.equal_nested {k k' : NestedKind} {f f' : NodeFacets} {x y : NestedObject Node} :
    (Node.nested k f x).equal (.nested k' f' y) = (k == k' && f == f' && x.equal y) := by
  rw [Bool.eq_iff_iff, equal_iff, same_nested]
  simp only [Node.sameShell, NestedObject.equal, Bool.and_eq_true, List.all_eq_true, equal_iff]

/-! ### Children by name -/

theorem sameChildren_of_entries : ∀ {as bs : Children Node}, as.keys = bs.keys →
    (∀ key a b, (key, a) ∈ as → (key, b) ∈ bs → a.Same b) → SameChildren as bs
  | [], [], _, _ => trivial
  | (name, a) :: as, (name', b) :: bs, hkeys, h => by
    rw [Children.keys_cons, Children.keys_cons, List.cons.injEq] at hkeys
    obtain ⟨rfl, hkeys⟩ := hkeys
    have hrest : SameChildren as bs := sameChildren_of_entries hkeys fun key a b ha hb =>
      h key a b (List.mem_cons_of_mem _ ha) (List.mem_cons_of_mem _ hb)
    exact ⟨rfl, h name a b List.mem_cons_self List.mem_cons_self, hrest⟩

theorem SameChildren.entries {key : String} {a b : Node} : ∀ {as bs : Children Node},
    SameChildren as bs → as.keys.Nodup → (key, a) ∈ as → (key, b) ∈ bs → a.Same b
  | (name, c) :: as, bs, h, hnodup, ha, hb => by
    cases bs <;> simp only [SameChildren] at h
    obtain ⟨rfl, hcd, hrest⟩ := h
    rw [Children.keys_cons, List.nodup_cons] at hnodup
    -- the name of the first child is not that of a later one, on neither side
    have hkeys := (sameChildren_iff_pairs.mp hrest).1
    rw [List.mem_cons, Prod.mk.injEq] at ha
    rw [List.mem_cons, Prod.ext_iff] at hb
    rcases ha with ⟨rfl, rfl⟩ | ha
    · rcases hb with ⟨-, rfl⟩ | hb
      · exact hcd
      · rw [hkeys] at hnodup
        exact absurd (List.mem_map.mpr ⟨_, hb, rfl⟩) hnodup.1
    · rcases hb with ⟨rfl, -⟩ | hb
      · exact absurd (List.mem_map.mpr ⟨_, ha, rfl⟩) hnodup.1
      · exact hrest.entries hnodup.2 ha hb

/-- In maps the same children are the same names and, under each of them, the same child. -/
theorem sameChildren_iff {as bs : Children Node} (has : as.keys.Pairwise (· < ·))
    (hbs : bs.keys.Pairwise (· < ·)) :
    SameChildren as bs ↔ (∀ key, key ∈ as.keys ↔ key ∈ bs.keys) ∧
      ∀ key a b, (key, a) ∈ as → (key, b) ∈ bs → a.Same b := by
  constructor
  · intro h
    have hkeys := (sameChildren_iff_pairs.mp h).1
    exact ⟨fun key => by rw [hkeys], fun key a b ha hb => h.entries has.nodup ha hb⟩
  · rintro ⟨hmem, hall⟩
    exact sameChildren_of_entries (has.eq_of_mem_iff hbs hmem) hall

/-! ### Equality -/

/-- **Equality of nodes.**  Comparing nodes with a list of pairs is comparing them by recursion, in
maps child by child under its name.  It agrees with comparing the objects of nested nodes, and is
symmetric, transitive, and reflexive exactly for trees whose float defaults are numbers. -/
theorem equal_iff_same :
    (∀ a b : Node, a.equal b = true ↔ a.Same b) ∧
    (∀ as bs : Children Node, as.keys.Pairwise (· < ·) → bs.keys.Pairwise (· < ·) →
      (SameChildren as bs ↔ (∀ key, key ∈ as.keys ↔ key ∈ bs.keys) ∧
        ∀ key a b, (key, a) ∈ as → (key, b) ∈ bs → a.equal b = true)) ∧
    (∀ k k' f f' x y,
      (Node.nested k f x).equal (.nested k' f' y) = (k == k' && f == f' && x.equal y)) ∧
    (∀ a b : Node, a.equal b = b.equal a) ∧
    (∀ a b c : Node, a.equal b = true → b.equal c = true → a.equal c = true) ∧
    ∀ a : Node, a.equal a = true ↔ a.NumberDefaults := by
  refine ⟨fun _ _ => Node.equal_iff, fun as bs has hbs => ?_, fun _ _ _ _ _ _ => Node.equal_nested,
    fun a b => ?_, fun a b c h h' => ?_, fun a => ?_⟩
  · simp only [Node.equal_iff]
    exact sameChildren_iff has hbs
  · rw [Bool.eq_iff_iff, Node.equal_iff, Node.equal_iff]
    exact ⟨Node.Same.symm, Node.Same.symm⟩
  · rw [Node.equal_iff] at h h' ⊢
    exact h.trans h'
  · rw [Node.equal_iff, Node.same_self_iff]

/-- A node whose default is `x`. -/
def defaultNode (x : Float) : Node :=
  .scalar .float64
    { default := some (.float64 x), planModifiers := ⟨.scalar .float64, []⟩,
      validators := ⟨.scalar .float64, []⟩ }

/-- A node whose default is `x` between others. -/
def defaultChildren (x : Float) : Children Node :=
  [("a", defaultNode 1), ("b", defaultNode x), ("c", defaultNode 2)]

/-- Zeros of both signs are one default, in nodes and in the maps that hold them. -/
theorem equal_iff_same_zeros :
    (defaultNode 0).equal (defaultNode (-0)) = true ∧
    (defaultNode (-0)).equal (defaultNode 0) = true ∧
    (defaultNode 0).equal (defaultNode 0) = true ∧
    (defaultChildren 0).keys.Pairwise (· < ·) ∧ (defaultChildren (-0)).keys.Pairwise (· < ·) ∧
    ∀ key a b, (key, a) ∈ defaultChildren 0 → (key, b) ∈ defaultChildren (-0) →
      a.equal b = true := by
  obtain ⟨hsame, hentries, -, hsymm, htrans, -⟩ := equal_iff_same
  have hzero : (defaultNode 0).Same (defaultNode (-0)) := ⟨rfl, by decide⟩
  have h : (defaultNode 0).equal (defaultNode (-0)) = true := (hsame _ _).mpr hzero
  have h' : (defaultNode (-0)).equal (defaultNode 0) = true := by rw [hsymm, h]
  have hsorted : ∀ x, (defaultChildren x).keys.Pairwise (· < ·) := fun x => by
    show ["a", "b", "c"].Pairwise (· < ·)
    decide
  have hchildren : SameChildren (defaultChildren 0) (defaultChildren (-0)) :=
    ⟨rfl, ⟨rfl, by decide⟩, rfl, hzero, rfl, ⟨rfl, by decide⟩, trivial⟩
  exact ⟨h, h', htrans _ _ _ h h', hsorted 0, hsorted (-0),
    ((hentries _ _ (hsorted 0) (hsorted (-0))).mp hchildren).2⟩

end ProviderCode
