import ProviderCode.Proofs.Qualifiers
import ProviderCode.Proofs.Rendering
import ProviderCode.Proofs.Results

/-!
# Sources of rendered templates

What a template renders as a source: its own text as the generator's, and in its places the sources
of the values of the context.

* `Template.join_renderPieces?`: the text of this source is the text that the template renders.
* `Template.within_tracePieces`: it uses the packages that the texts of the template and the sources
  of the context use.
-/

namespace ProviderCode

open Json (Value)

/-- A value of the context of a template, with the sources of the texts in it. -/
inductive Slot
  | source (source : Source)
  | flag (b : Bool)
  | list (items : List Slot)
  | record (members : List (String × Slot))

namespace Slot

mutual

/-- The value without its sources. -/
def value : Slot → Value
  | .source s => .string s.text
  | .flag b => .bool b
  | .list items => .array (values items)
  | .record members => .object (memberValues members)
termination_by structural slot => slot

def values : List Slot → List Value
  | [] => []
  | item :: items => item.value :: values items
termination_by structural items => items

def memberValues : List (String × Slot) → List (String × Value)
  | [] => []
  | (key, slot) :: members => (key, slot.value) :: memberValues members
termination_by structural members => members

end

theorem values_eq_map (items : List Slot) : values items = items.map value := by
  induction items with
  | nil => rfl
  | cons item items ih => rw [values, ih, List.map_cons]

theorem memberValues_eq_map (members : List (String × Slot)) :
    memberValues members = members.map fun member => (member.1, member.2.value) := by
  induction members with
  | nil => rfl
  | cons member members ih => rw [memberValues, ih, List.map_cons]

def get? (key : String) : Slot → Option Slot
  | .record members => members.reverse.lookup key
  | _ => none

theorem value_get? (key : String) (slot : Slot) :
    slot.value.get? key = (slot.get? key).map value := by
  have hlookup : ∀ members : List (String × Slot),
      (members.map fun member => (member.1, member.2.value)).lookup key =
        (members.lookup key).map value := by
    intro members
    induction members with
    | nil => rfl
    | cons member members ih =>
      rw [List.map_cons, List.lookup_cons, List.lookup_cons, ih]
      cases key == member.1 <;> rfl
  cases slot with
  | record members =>
    rw [value, Value.get?, memberValues_eq_map, ← List.map_reverse, hlookup]
    rfl
  | _ => rfl

/-- The source that stands for a value in a text.  The templates of this library do not put lists
and records in place as a whole. -/
def display : Option Slot → Source
  | none => []
  | some (.source s) => s
  | some (.flag b) => [.fixed (if b then "True" else "False")]
  | some slot => [.verbatim (Template.inner slot.value)]

theorem text_display (slot : Option Slot) :
    (display slot).text = Template.display (slot.map value) := by
  cases slot with
  | none => rfl
  | some slot =>
    cases slot with
    | source s => rfl
    | flag b => cases b <;> rfl
    | list items => exact (Source.text_cons _ _).trans (String.append_empty)
    | record members => exact (Source.text_cons _ _).trans (String.append_empty)

/-- The items to go through. -/
def items : Option Slot → List Slot
  | some (.list items) => items
  | some (.record members) =>
    ((members.map (·.1)).mergeSort fun a b => a ≤ b).map fun key => .source [.verbatim key]
  | some (.source s) => s.text.toList.map fun c => .source [.verbatim (String.singleton c)]
  | some (.flag _) | none => []

theorem items_of_items? {slot : Option Slot} {given : List Value}
    (h : Template.items? (slot.map value) = some given) : given = (items slot).map value := by
  have hverbatim : ∀ text : String, (Slot.source [.verbatim text]).value = .string text := fun text =>
    congrArg Value.string ((Source.text_cons _ _).trans String.append_empty)
  cases slot with
  | none => exact (Option.some.inj h).symm
  | some slot =>
    cases slot with
    | flag b => cases h
    | list list =>
      rw [items, ← values_eq_map]
      exact (Option.some.inj h).symm
    | source s =>
      rw [items, List.map_map, ← Option.some.inj h]
      exact List.map_congr_left fun c _ => (hverbatim _).symm
    | record members =>
      have hkeys : (memberValues members).map (·.1) = members.map (·.1) := by
        rw [memberValues_eq_map, List.map_map]
        rfl
      rw [items, List.map_map, ← Option.some.inj h, hkeys]
      exact List.map_congr_left fun key _ => (hverbatim _).symm

end Slot

/-! ### Rendering with sources -/

namespace Template

/-- A scope with the sources of its values. -/
structure SlotScope where
  bound : List (String × Slot) := []
  context : Slot

namespace SlotScope

/-- The scope without sources. -/
def values (scope : SlotScope) : Scope where
  bound := scope.bound.map fun named => (named.1, named.2.value)
  context := scope.context.value

def bind (scope : SlotScope) (var : String) (slot : Slot) : SlotScope :=
  { scope with bound := (var, slot) :: scope.bound }

def follow : Option Slot → List String → Option Slot
  | slot, [] => slot
  | none, _ :: _ => none
  | some slot, key :: keys => follow (slot.get? key) keys

/-- What a path leads to. -/
def resolve (scope : SlotScope) (path : Path) : Option Slot :=
  follow ((scope.bound.lookup path.var).or (scope.context.get? path.var)) path.members

theorem follow?_value {value : Option Value} : ∀ {slot : Option Slot} {keys : List String},
    Scope.follow? (slot.map Slot.value) keys = some value → value = (follow slot keys).map Slot.value
  | _, [], h => (Option.some.inj h).symm
  | none, _ :: _, h => by cases h
  | some slot, key :: keys, h => by
    rw [Option.map_some, Scope.follow?, Slot.value_get?] at h
    exact @follow?_value value (slot.get? key) keys h

theorem resolve?_values {scope : SlotScope} {path : Path} {value : Option Value}
    (h : scope.values.resolve? path = some value) : value = (scope.resolve path).map Slot.value := by
  have hlookup : ∀ bound : List (String × Slot),
      (bound.map fun named => (named.1, named.2.value)).lookup path.var =
        (bound.lookup path.var).map Slot.value := by
    intro bound
    induction bound with
    | nil => rfl
    | cons named bound ih =>
      rw [List.map_cons, List.lookup_cons, List.lookup_cons, ih]
      cases path.var == named.1 <;> rfl
  have hfound : scope.values.lookup? path.var =
      ((scope.bound.lookup path.var).or (scope.context.get? path.var)).map Slot.value := by
    rw [Scope.lookup?, values, hlookup, Slot.value_get?]
    cases scope.bound.lookup path.var <;> rfl
  rw [Scope.resolve?, hfound] at h
  exact follow?_value h

end SlotScope

mutual

/-- The source of a piece. -/
def tracePiece : SlotScope → Piece → Source
  | _, .text text => [.fixed text]
  | scope, .value path => Slot.display (scope.resolve path)
  | scope, .count path =>
    [.fixed (Nat.repr ((count? ((scope.resolve path).map Slot.value)).getD 0))]
  | scope, .each var path body =>
    (Slot.items (scope.resolve path)).flatMap fun item => tracePieces (scope.bind var item) body
  | scope, .choose condition yes no =>
    if holds ((scope.resolve condition).map Slot.value) then tracePieces scope yes
    else tracePieces scope no
termination_by structural _ piece => piece

/-- The source of pieces, one after the other. -/
def tracePieces : SlotScope → List Piece → Source
  | _, [] => []
  | scope, piece :: pieces => tracePiece scope piece ++ tracePieces scope pieces
termination_by structural _ pieces => pieces

end

theorem tracePieces_append (scope : SlotScope) (a b : List Piece) :
    tracePieces scope (a ++ b) = tracePieces scope a ++ tracePieces scope b := by
  induction a with
  | nil => rfl
  | cons piece a ih => rw [List.cons_append, tracePieces, tracePieces, ih, List.append_assoc]

/-- The source of a template for a context. -/
def trace (template : Template) (context : Slot) : Source :=
  tracePieces { context } template.pieces

/-- Pieces in the middle of a template have their sources in the middle of its source. -/
theorem trace_part {template : Template} {pieces : List Piece} (context : Slot)
    (h : pieces <:+: template.pieces) :
    tracePieces { context } pieces <:+: template.trace context := by
  obtain ⟨before, after, hpieces⟩ := h
  rw [trace, ← hpieces, tracePieces_append, tracePieces_append]
  exact ⟨_, _, rfl⟩

/-- Texts that are rendered one after the other for items have the source of all items. -/
theorem join_flatten_mapM {f : Value → Option (List String)} {g : Slot → Source} :
    ∀ {items : List Slot} {texts : List (List String)}, (items.map Slot.value).mapM f = some texts →
      (∀ item ∈ items, ∀ ts, f item.value = some ts → String.join ts = (g item).text) →
      String.join texts.flatten = Source.text (items.flatMap g)
  | [], _, h, _ => by
    cases h
    rfl
  | item :: items, texts, h, hitems => by
    rw [List.map_cons, List.mapM_cons] at h
    obtain ⟨ts, hts, h⟩ := Option.bind_eq_some_iff.mp h
    obtain ⟨rest, hrest, h⟩ := Option.bind_eq_some_iff.mp h
    cases h
    obtain ⟨hitem, hitems⟩ := List.forall_mem_cons.mp hitems
    rw [List.flatten_cons, String.join_append, hitem ts hts, join_flatten_mapM hrest hitems,
      List.flatMap_cons, Source.text_append]

mutual

theorem join_renderPiece? {scope : SlotScope} {texts : List String} : ∀ {piece : Piece},
    renderPiece? scope.values piece = some texts →
      String.join texts = (tracePiece scope piece).text
  | .text text, h => by
    cases h
    rfl
  | .value path, h => by
    rw [renderPiece?] at h
    obtain ⟨value, hvalue, h⟩ := Option.bind_eq_some_iff.mp h
    obtain rfl := SlotScope.resolve?_values hvalue
    cases h
    rw [tracePiece, Slot.text_display, String.join_cons, String.join_nil, String.append_empty]
  | .count path, h => by
    rw [renderPiece?] at h
    obtain ⟨value, hvalue, h⟩ := Option.bind_eq_some_iff.mp h
    obtain rfl := SlotScope.resolve?_values hvalue
    obtain ⟨n, hn, h⟩ := Option.bind_eq_some_iff.mp h
    cases h
    rw [tracePiece, hn]
    rfl
  | .each var path body, h => by
    rw [renderPiece?] at h
    obtain ⟨value, hvalue, h⟩ := Option.bind_eq_some_iff.mp h
    obtain rfl := SlotScope.resolve?_values hvalue
    obtain ⟨items, hitems, h⟩ := Option.bind_eq_some_iff.mp h
    obtain rfl := Slot.items_of_items? hitems
    obtain ⟨rendered, hrendered, h⟩ := Option.bind_eq_some_iff.mp h
    cases h
    rw [tracePiece]
    refine join_flatten_mapM hrendered fun item _ ts hts => ?_
    have hitem : renderPieces? (scope.bind var item).values body = some ts := hts
    exact join_renderPieces? hitem
  | .choose condition yes no, h => by
    rw [renderPiece?] at h
    obtain ⟨value, hvalue, h⟩ := Option.bind_eq_some_iff.mp h
    obtain rfl := SlotScope.resolve?_values hvalue
    rw [tracePiece]
    split at h
    · next hholds =>
      rw [if_pos hholds]
      exact join_renderPieces? h
    · next hholds =>
      rw [if_neg hholds]
      exact join_renderPieces? h

/-- **The text of the source** is what the pieces render, if they do. -/
theorem join_renderPieces? {scope : SlotScope} {texts : List String} : ∀ {pieces : List Piece},
    renderPieces? scope.values pieces = some texts →
      String.join texts = (tracePieces scope pieces).text
  | [], h => by
    cases h
    rfl
  | piece :: pieces, h => by
    rw [renderPieces?] at h
    obtain ⟨first, hfirst, h⟩ := Option.bind_eq_some_iff.mp h
    obtain ⟨rest, hrest, h⟩ := Option.bind_eq_some_iff.mp h
    cases h
    rw [String.join_append, join_renderPiece? hfirst, join_renderPieces? hrest, tracePieces,
      Source.text_append]

end

end Template

/-! ### Packages that are used -/

/-- A value of a context whose sources use allowed packages only. -/
inductive Slot.Within (allowed : Package → Prop) : Slot → Prop
  | source {s : Source} (h : s.Within allowed) : Within allowed (.source s)
  | flag (b : Bool) : Within allowed (.flag b)
  | list {items : List Slot} (h : ∀ item ∈ items, Within allowed item) : Within allowed (.list items)
  | record {members : List (String × Slot)} (h : ∀ member ∈ members, Within allowed member.2) :
      Within allowed (.record members)

theorem mem_of_lookup {α : Type} {key : String} {a : α} {members : List (String × α)}
    (h : members.lookup key = some a) : (key, a) ∈ members := by
  obtain ⟨before, after, rfl, -⟩ := List.lookup_eq_some_iff.mp h
  exact List.mem_append_right _ List.mem_cons_self

namespace Slot

variable {allowed : Package → Prop}

theorem Within.get? {slot found : Slot} {key : String} (h : slot.Within allowed)
    (hfound : slot.get? key = some found) : found.Within allowed := by
  cases h with
  | record hmembers => exact hmembers _ (List.mem_reverse.mp (mem_of_lookup hfound))
  | _ => cases hfound

theorem within_verbatim (text : String) : (Slot.source [.verbatim text]).Within allowed :=
  .source (by simp)

theorem within_display {slot : Option Slot} (h : ∀ s, slot = some s → s.Within allowed) :
    (display slot).Within allowed := by
  cases slot with
  | none => exact Source.within_nil
  | some slot =>
    cases h slot rfl with
    | source hs => exact hs
    | flag b => cases b <;> exact Source.within_cons.mpr ⟨.plain (by decide), Source.within_nil⟩
    | list | record => exact Source.within_cons.mpr ⟨.verbatim _, Source.within_nil⟩

theorem within_items {slot : Option Slot} (h : ∀ s, slot = some s → s.Within allowed) :
    ∀ item ∈ items slot, item.Within allowed := by
  intro item hitem
  cases slot with
  | none => exact absurd hitem List.not_mem_nil
  | some slot =>
    cases h slot rfl with
    | list hitems => exact hitems item hitem
    | flag b => exact absurd hitem List.not_mem_nil
    | source | record =>
      obtain ⟨_, -, rfl⟩ := List.mem_map.mp hitem
      exact within_verbatim _

end Slot

namespace Template

variable {allowed : Package → Prop}

mutual

/-- The texts of a piece and of the pieces in it. -/
def textsOfPiece : Piece → List String
  | .text text => [text]
  | .value _ | .count _ => []
  | .each _ _ body => textsOf body
  | .choose _ yes no => textsOf yes ++ textsOf no
termination_by structural piece => piece

def textsOf : List Piece → List String
  | [] => []
  | piece :: pieces => textsOfPiece piece ++ textsOf pieces
termination_by structural pieces => pieces

end

/-- A scope whose sources use allowed packages only. -/
structure SlotScope.Within (allowed : Package → Prop) (scope : SlotScope) : Prop where
  bound : ∀ named ∈ scope.bound, named.2.Within allowed
  context : scope.context.Within allowed

theorem SlotScope.Within.bind {scope : SlotScope} (h : scope.Within allowed) {slot : Slot}
    (hslot : slot.Within allowed) (var : String) : (scope.bind var slot).Within allowed :=
  ⟨List.forall_mem_cons.mpr ⟨hslot, h.bound⟩, h.context⟩

theorem SlotScope.Within.resolve {scope : SlotScope} (h : scope.Within allowed) {path : Path} :
    ∀ slot, scope.resolve path = some slot → slot.Within allowed := by
  have hfollow : ∀ {keys : List String} {start : Option Slot}, (∀ s, start = some s → s.Within allowed) →
      ∀ slot, follow start keys = some slot → slot.Within allowed := by
    intro keys
    induction keys with
    | nil => exact fun hstart => hstart
    | cons key keys ih =>
      intro start hstart
      cases start with
      | none => exact fun _ hnone => nomatch hnone
      | some s => exact ih fun found hfound => (hstart s rfl).get? hfound
  refine hfollow fun s hs => ?_
  cases hbound : scope.bound.lookup path.var with
  | some found =>
    rw [hbound] at hs
    cases hs
    exact h.bound _ (mem_of_lookup hbound)
  | none =>
    rw [hbound] at hs
    exact h.context.get? hs

mutual

theorem within_tracePiece {scope : SlotScope} (hscope : scope.Within allowed) : ∀ {piece : Piece},
    (∀ text ∈ textsOfPiece piece, (Chunk.fixed text).Within allowed) →
      (tracePiece scope piece).Within allowed
  | .text text, h => Source.within_cons.mpr ⟨h text List.mem_cons_self, Source.within_nil⟩
  | .value path, _ => Slot.within_display hscope.resolve
  | .count path, _ => by
    rw [tracePiece]
    exact Source.within_cons.mpr ⟨.natural _, Source.within_nil⟩
  | .each var path body, h => by
    rw [tracePiece]
    refine Source.within_flatMap fun item hitem => ?_
    exact within_tracePieces (hscope.bind (Slot.within_items hscope.resolve item hitem) var) h
  | .choose condition yes no, h => by
    have hboth := List.forall_mem_append.mp h
    rw [tracePiece]
    split
    · exact within_tracePieces hscope hboth.1
    · exact within_tracePieces hscope hboth.2

/-- **A template uses allowed packages only** if its texts and the sources of its context do. -/
theorem within_tracePieces {scope : SlotScope} (hscope : scope.Within allowed) :
    ∀ {pieces : List Piece}, (∀ text ∈ textsOf pieces, (Chunk.fixed text).Within allowed) →
      (tracePieces scope pieces).Within allowed
  | [], _ => Source.within_nil
  | piece :: pieces, h => by
    obtain ⟨hpiece, hpieces⟩ := List.forall_mem_append.mp h
    exact Source.within_append.mpr ⟨within_tracePiece hscope hpiece, within_tracePieces hscope hpieces⟩

end

end Template

end ProviderCode
