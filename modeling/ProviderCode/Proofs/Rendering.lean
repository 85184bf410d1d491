import ProviderCode.Node.Adapter
import ProviderCode.Node.TypePair
import ProviderCode.Proofs.SchemaText

/-!
# Templates that always render

Rendering fails only where a path goes on from nothing, where something without items is counted, or
where a number or truth value is gone through.  Whether this can happen shows in the template, given
which paths are known to lead to values and which to lists.

* `renderPieces?_ok`: pieces that fit what is known render in every scope that has it.
* `NestedObject.typePair_ok`, `ExternalType.render_adapters_ok`: so the templates of this library
  render for every object, and what they declare is named after it.
-/

namespace ProviderCode.Template

open Json (Value)

/-! ### What is known of a scope -/

/-- Paths that lead to values, and paths that lead to lists. -/
structure Known where
  values : List Path := []
  lists : List Path := []

namespace Known

/-- Inside a repeated part the variable stands for a value, and what was known of it is void. -/
def bind (known : Known) (var : String) : Known where
  values := ⟨var, []⟩ :: known.values.filter (·.var != var)
  lists := known.lists.filter (·.var != var)

/-- Where a condition holds its path leads to a value. -/
def assume (known : Known) (path : Path) : Known :=
  { known with values := path :: known.values }

/-- Whether a path has no members to follow from nothing. -/
def leads (known : Known) (path : Path) : Bool :=
  path.members.isEmpty || known.values.contains ⟨path.var, path.members.dropLast⟩

end Known

mutual

/-- Whether a piece renders wherever this is known. -/
def fitsPiece (known : Known) : Piece → Bool
  | .text _ => true
  | .value path => known.leads path
  | .count path => known.lists.contains path
  | .each var path body => known.lists.contains path && fitsPieces (known.bind var) body
  | .choose condition yes no =>
    known.leads condition && fitsPieces (known.assume condition) yes && fitsPieces known no
termination_by structural piece => piece

def fitsPieces (known : Known) : List Piece → Bool
  | [] => true
  | piece :: pieces => fitsPiece known piece && fitsPieces known pieces
termination_by structural pieces => pieces

end

/-- A scope in which what is known is true. -/
structure Scope.Has (scope : Scope) (known : Known) : Prop where
  values : ∀ path ∈ known.values, ∃ value, scope.resolve? path = some (some value)
  lists : ∀ path ∈ known.lists, ∃ items, scope.resolve? path = some (some (.array items))

namespace Scope

theorem follow?_append {value : Option Value} {v : Value} {key : String} : ∀ {keys : List String},
    follow? value keys = some (some v) → follow? value (keys ++ [key]) = some (v.get? key)
  | [], h => by
    cases h
    rfl
  | k :: keys, h => by
    cases value with
    | none => cases h
    | some w => exact @follow?_append (w.get? k) v key keys h

variable {scope : Scope} {known : Known} {path : Path}

/-- A path that leads on from values only resolves, be it to nothing. -/
theorem Has.resolve?_leads (h : scope.Has known) (hleads : known.leads path = true) :
    ∃ value, scope.resolve? path = some value := by
  obtain ⟨var, members⟩ := path
  rw [Known.leads, Bool.or_eq_true, List.isEmpty_iff, List.contains_iff_mem] at hleads
  rcases List.eq_nil_or_concat members with rfl | ⟨keys, key, rfl⟩
  · exact ⟨_, rfl⟩
  · have hmem : (⟨var, keys⟩ : Path) ∈ known.values := by
      rcases hleads with hnil | hmem
      · exact absurd hnil (by simp)
      · simpa using hmem
    obtain ⟨v, hv⟩ := h.values _ hmem
    have hnext : follow? (scope.lookup? var) (keys ++ [key]) = some (v.get? key) := follow?_append hv
    exact ⟨_, by rw [List.concat_eq_append]; exact hnext⟩

theorem resolve?_bind_of_ne {var : String} {value : Value} (h : path.var ≠ var) :
    (scope.bind var value).resolve? path = scope.resolve? path := by
  have hne : (path.var == var) = false := beq_eq_false_iff_ne.mpr h
  simp only [resolve?, lookup?, bind, List.lookup_cons, hne]

theorem resolve?_bind_self {var : String} {value : Value} :
    (scope.bind var value).resolve? ⟨var, []⟩ = some (some value) := by
  simp only [resolve?, lookup?, bind, List.lookup_cons_self, Option.some_or, follow?]

theorem Has.bind (h : scope.Has known) (var : String) (value : Value) :
    (scope.bind var value).Has (known.bind var) := by
  have hkeep : ∀ p : Path, (p.var != var) = true →
      (scope.bind var value).resolve? p = scope.resolve? p := fun p hp =>
    resolve?_bind_of_ne (bne_iff_ne.mp hp)
  refine ⟨fun p hp => ?_, fun p hp => ?_⟩
  · rcases List.mem_cons.mp hp with rfl | hp
    · exact ⟨value, resolve?_bind_self⟩
    · obtain ⟨hp, hne⟩ := List.mem_filter.mp hp
      rw [hkeep p hne]
      exact h.values p hp
  · obtain ⟨hp, hne⟩ := List.mem_filter.mp hp
    rw [hkeep p hne]
    exact h.lists p hp

theorem Has.assume (h : scope.Has known) {value : Option Value}
    (hresolve : scope.resolve? path = some value) (hholds : holds value = true) :
    scope.Has (known.assume path) := by
  refine ⟨fun p hp => ?_, h.lists⟩
  rcases List.mem_cons.mp hp with rfl | hp
  · cases value with
    | none => cases hholds
    | some v => exact ⟨v, hresolve⟩
  · exact h.values p hp

end Scope

/-! ### Rendering succeeds -/

theorem mapM_isSome {α β : Type} {f : α → Option β} : ∀ {as : List α},
    (∀ a ∈ as, ∃ b, f a = some b) → ∃ bs, as.mapM f = some bs
  | [], _ => ⟨[], rfl⟩
  | a :: as, h => by
    obtain ⟨b, hb⟩ := h a List.mem_cons_self
    obtain ⟨bs, hbs⟩ := mapM_isSome fun a' ha' => h a' (List.mem_cons_of_mem _ ha')
    exact ⟨b :: bs, by rw [List.mapM_cons, hb, hbs]; rfl⟩

mutual

theorem renderPiece?_ok {known : Known} {scope : Scope} : ∀ {piece : Piece}, scope.Has known →
    fitsPiece known piece = true → ∃ texts, renderPiece? scope piece = some texts
  | .text text, _, _ => ⟨[text], by rw [renderPiece?]⟩
  | .value path, hscope, h => by
    rw [fitsPiece] at h
    obtain ⟨value, hvalue⟩ := hscope.resolve?_leads h
    exact ⟨_, by rw [renderPiece?, hvalue]; rfl⟩
  | .count path, hscope, h => by
    rw [fitsPiece, List.contains_iff_mem] at h
    obtain ⟨items, hitems⟩ := hscope.lists path h
    exact ⟨_, by rw [renderPiece?, hitems]; rfl⟩
  | .each var path body, hscope, h => by
    rw [fitsPiece, Bool.and_eq_true, List.contains_iff_mem] at h
    obtain ⟨items, hitems⟩ := hscope.lists path h.1
    obtain ⟨texts, htexts⟩ := mapM_isSome fun item (_ : item ∈ items) =>
      renderPieces?_ok (hscope.bind var item) h.2
    refine ⟨texts.flatten, ?_⟩
    rw [renderPiece?, hitems]
    change (items.mapM (fun item => renderPieces? (scope.bind var item) body) >>= _) = _
    rw [htexts]
    rfl
  | .choose condition yes no, hscope, h => by
    rw [fitsPiece, Bool.and_eq_true, Bool.and_eq_true] at h
    obtain ⟨⟨hcondition, hyes⟩, hno⟩ := h
    obtain ⟨value, hvalue⟩ := hscope.resolve?_leads hcondition
    rw [renderPiece?, hvalue]
    change ∃ texts, (if holds value then renderPieces? scope yes else renderPieces? scope no) = _
    cases hholds : holds value with
    | true => exact renderPieces?_ok (hscope.assume hvalue hholds) hyes
    | false => exact renderPieces?_ok hscope hno

/-- **Pieces that fit render**, in every scope that has what is known. -/
theorem renderPieces?_ok {known : Known} {scope : Scope} : ∀ {pieces : List Piece},
    scope.Has known → fitsPieces known pieces = true →
      ∃ texts, renderPieces? scope pieces = some texts
  | [], _, _ => ⟨[], by rw [renderPieces?]⟩
  | piece :: pieces, hscope, h => by
    rw [fitsPieces, Bool.and_eq_true] at h
    obtain ⟨texts, htexts⟩ := renderPiece?_ok hscope h.1
    obtain ⟨rest, hrest⟩ := renderPieces?_ok hscope h.2
    exact ⟨texts ++ rest, by rw [renderPieces?, htexts, hrest]; rfl⟩

end

/-- What the templates of this library know: the fields are a list. -/
def Known.fields : Known where
  lists := [⟨"fields", []⟩]

/-- A template that fits renders for every context with a list of fields. -/
theorem render_ok {template : Template} (hfits : fitsPieces .fields template.pieces = true)
    (name : String) {context : Value} {fields : List Value}
    (hfields : context.get? "fields" = some (.array fields)) :
    ∃ text, template.render name context = .ok text := by
  have hscope : Scope.Has { context } .fields := by
    refine ⟨fun p hp => absurd hp List.not_mem_nil, fun p hp => ⟨fields, ?_⟩⟩
    obtain rfl := List.mem_singleton.mp hp
    simp only [Scope.resolve?, Scope.lookup?, List.lookup_nil, Option.none_or, hfields,
      Scope.follow?]
  obtain ⟨texts, htexts⟩ := renderPieces?_ok hscope hfits
  exact ⟨String.join texts, by rw [render, htexts]⟩

theorem fits_objectType : fitsPieces .fields objectType.pieces = true := by decide

theorem fits_objectValue : fitsPieces .fields objectValue.pieces = true := by decide

theorem fits_adapters : fitsPieces .fields adapters.pieces = true := by decide

/-! ### Parts of what is rendered -/

theorem renderPieces?_append {scope : Scope} {a b : List Piece} {texts : List String}
    (h : renderPieces? scope (a ++ b) = some texts) :
    ∃ ta tb, renderPieces? scope a = some ta ∧ renderPieces? scope b = some tb ∧
      texts = ta ++ tb := by
  induction a generalizing texts with
  | nil => exact ⟨[], texts, rfl, h, rfl⟩
  | cons piece a ih =>
    rw [List.cons_append, renderPieces?] at h
    obtain ⟨tp, hp, h⟩ := Option.bind_eq_some_iff.mp h
    obtain ⟨rest, hrest, h⟩ := Option.bind_eq_some_iff.mp h
    obtain ⟨ta, tb, ha, hb, rfl⟩ := ih hrest
    refine ⟨tp ++ ta, tb, ?_, hb, ?_⟩
    · rw [renderPieces?, hp, ha]
      rfl
    · rw [List.append_assoc]
      exact (Option.some.inj h).symm

/-- Pieces in the middle of a template are rendered in the middle of its text. -/
theorem occurs_of_render {template : Template} {name text middle : String} {context : Value}
    {pieces : List Piece} (hpart : pieces <:+: template.pieces)
    (hmiddle : ∀ texts, renderPieces? { context } pieces = some texts → String.join texts = middle)
    (h : template.render name context = .ok text) : Occurs middle text := by
  obtain ⟨before, after, hpieces⟩ := hpart
  rw [render, ← hpieces] at h
  cases htexts : renderPieces? { context } (before ++ pieces ++ after) with
  | none => rw [htexts] at h; cases h
  | some texts =>
    rw [htexts] at h
    cases h
    obtain ⟨tab, tc, hab, -, rfl⟩ := renderPieces?_append htexts
    obtain ⟨ta, tb, -, hb, rfl⟩ := renderPieces?_append hab
    refine ⟨String.join ta, String.join tc, ?_⟩
    rw [String.join_append, String.join_append, hmiddle tb hb]

/-- A fixed text or a text of the context before other pieces. -/
theorem renderPieces?_text {scope : Scope} (text : String) (pieces : List Piece) :
    renderPieces? scope (.text text :: pieces) = (text :: ·) <$> renderPieces? scope pieces := by
  rw [renderPieces?, renderPiece?]
  cases renderPieces? scope pieces <;> rfl

theorem renderPieces?_given {context : Value} {key given : String} (pieces : List Piece)
    (h : context.get? key = some (.string given)) :
    renderPieces? { context } (.value ⟨key, []⟩ :: pieces) =
      (given :: ·) <$> renderPieces? { context } pieces := by
  have hresolve : Scope.resolve? { context } ⟨key, []⟩ = some (some (.string given)) := by
    simp only [Scope.resolve?, Scope.lookup?, List.lookup_nil, Option.none_or, h, Scope.follow?]
  rw [renderPieces?, renderPiece?, hresolve]
  cases renderPieces? { context } pieces <;> rfl

end ProviderCode.Template

namespace ProviderCode

open Json (Value)

/-! ### Type pairs and adapters -/

/-- The declarations of the type and of the value type that are generated for a name. -/
def DeclaresPair (name text : String) : Prop :=
  Occurs ("type " ++ name ++ "Type struct \x7b\n") text ∧
    Occurs ("type " ++ name ++ "Value struct \x7b\n") text

theorem Occurs.append_right {inner outer : String} (h : Occurs inner outer) (text : String) :
    Occurs inner (outer ++ text) := by
  obtain ⟨before, after, rfl⟩ := h
  exact ⟨before, after ++ text, by simp only [String.append_assoc]⟩

theorem Occurs.append_left {inner outer : String} (h : Occurs inner outer) (text : String) :
    Occurs inner (text ++ outer) := by
  obtain ⟨before, after, rfl⟩ := h
  exact ⟨text ++ before, after, by simp only [String.append_assoc]⟩

/-- **Type pairs.**  The pair of an object is always rendered, and declares both types. -/
theorem NestedObject.typePair_ok (name : String) (object : NestedObject Node) :
    ∃ text, object.typePair name = .ok text ∧ DeclaresPair (Name.pascal name) text := by
  have hfields : (object.context name).get? "fields" =
      some (.array (object.fieldDescriptors.map FieldDescriptor.context)) := rfl
  obtain ⟨type, htype⟩ := Template.render_ok Template.fits_objectType name hfields
  obtain ⟨value, hvalue⟩ := Template.render_ok Template.fits_objectValue name hfields
  have hname : (object.context name).get? "name" = some (.string (Name.pascal name)) := rfl
  have hdeclared : ∀ before after texts,
      Template.renderPieces? { context := object.context name }
        [.text before, Template.name, .text after] = some texts →
      String.join texts = before ++ Name.pascal name ++ after := fun before after texts h => by
    rw [Template.renderPieces?_text, Template.name, Template.renderPieces?_given _ hname,
      Template.renderPieces?_text] at h
    cases h
    simp only [String.join_cons, String.join_nil, String.append_empty, String.append_assoc]
  have hpart : [.text "type ", Template.name, .text "Type struct \x7b\n"] <:+:
      Template.objectType.pieces :=
    ⟨Template.ObjectType.assertion ++ [.text "\n"], _, rfl⟩
  have hvaluePart : [.text "type ", Template.name, .text "Value struct \x7b\n"] <:+:
      Template.objectValue.pieces :=
    ⟨Template.ObjectValue.assertion ++ [.text "\n"], _, rfl⟩
  refine ⟨type ++ value, by rw [typePair, htype, hvalue]; rfl, ?_, ?_⟩
  · exact (Template.occurs_of_render hpart (hdeclared _ _) htype).append_right value
  · exact (Template.occurs_of_render hvaluePart (hdeclared _ _) hvalue).append_left type

/-- The methods of the generated value of a name that convert to an external type and from it. -/
def DeclaresAdapters (name suffix text : String) : Prop :=
  Occurs ("func (v " ++ name ++ "Value) To" ++ suffix ++ "(ctx context.Context) (") text ∧
    Occurs ("func (v " ++ name ++ "Value) From" ++ suffix ++ "(ctx context.Context, apiObject ") text

/-- **Adapters.**  The adapters of an object are always rendered, whatever its fields are, and are
methods of the value that is generated for its name. -/
theorem ExternalType.render_adapters_ok (name : String) (external : ExternalType)
    (fields : List Conversion) :
    ∃ text, Template.adapters.render name (external.context name fields) = .ok text ∧
      DeclaresAdapters (Name.pascal name) external.suffix text := by
  have hfields : (external.context name fields).get? "fields" =
      some (.array (fields.map Conversion.context)) := rfl
  obtain ⟨text, htext⟩ := Template.render_ok Template.fits_adapters name hfields
  have hname : (external.context name fields).get? "name" = some (.string (Name.pascal name)) := rfl
  have hsuffix : (external.context name fields).get? "suffix" = some (.string external.suffix) :=
    rfl
  have hdeclared : ∀ before between after texts,
      Template.renderPieces? { context := external.context name fields }
        [.text before, Template.name, .text between, .value ⟨"suffix", []⟩, .text after] =
          some texts →
      String.join texts = before ++ Name.pascal name ++ between ++ external.suffix ++ after :=
    fun before between after texts h => by
      rw [Template.renderPieces?_text, Template.name, Template.renderPieces?_given _ hname,
        Template.renderPieces?_text, Template.renderPieces?_given _ hsuffix,
        Template.renderPieces?_text] at h
      cases h
      simp only [String.join_cons, String.join_nil, String.append_empty, String.append_assoc]
  have hto : [.text "func (v ", Template.name, .text "Value) To", .value ⟨"suffix", []⟩,
      .text "(ctx context.Context) ("] <:+: Template.adapters.pieces :=
    ⟨[.text "\n"], _, rfl⟩
  have hfrom : [.text "func (v ", Template.name, .text "Value) From", .value ⟨"suffix", []⟩,
      .text "(ctx context.Context, apiObject "] <:+: Template.adapters.pieces :=
    ⟨Template.Adapters.toExternal ++ [.text "\n"], _, rfl⟩
  exact ⟨text, htext, Template.occurs_of_render hto (hdeclared _ _ _) htext,
    Template.occurs_of_render hfrom (hdeclared _ _ _) htext⟩

end ProviderCode
