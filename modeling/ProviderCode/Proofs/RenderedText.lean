import ProviderCode.Proofs.Rendering

/-!
# The text of a template piece by piece

What a list of pieces renders to, as one text.  The rules follow the pieces: fixed text stands for
itself, a place for the text of its value, a repeated part for the texts of its members in order,
and a choice for one of its parts.  Pieces that follow one another are rendered one after the
other.

With these rules the text of a section is found by rewriting alone, as long as it is known what each
place leads to.
-/

namespace ProviderCode.Template

open Json (Value)

/-- The text of pieces, unless a value does not fit. -/
def renderText? (scope : Scope) (pieces : List Piece) : Option String :=
  (renderPieces? scope pieces).map String.join

variable {scope : Scope}

theorem renderText?_nil : renderText? scope [] = some "" := rfl

theorem renderText?_cons (piece : Piece) (pieces : List Piece) :
    renderText? scope (piece :: pieces) = (renderPiece? scope piece).bind fun texts =>
      (renderText? scope pieces).map (String.join texts ++ ·) := by
  rw [renderText?, renderPieces?, renderText?]
  cases renderPiece? scope piece with
  | none => rfl
  | some texts =>
    cases renderPieces? scope pieces with
    | none => rfl
    | some rest => exact congrArg some (String.join_append ..)

/-- Pieces that follow one another are rendered one after the other. -/
theorem renderText?_append (a b : List Piece) :
    renderText? scope (a ++ b) = (renderText? scope a).bind fun text =>
      (renderText? scope b).map (text ++ ·) := by
  induction a with
  | nil =>
    rw [List.nil_append, renderText?_nil, Option.bind_some]
    cases renderText? scope b with
    | none => rfl
    | some text => exact congrArg some String.empty_append.symm
  | cons piece a ih =>
    rw [List.cons_append, renderText?_cons, renderText?_cons, ih]
    cases renderPiece? scope piece with
    | none => rfl
    | some texts =>
      cases renderText? scope a with
      | none => rfl
      | some text =>
        cases renderText? scope b with
        | none => rfl
        | some rest => exact congrArg some String.append_assoc.symm

/-- A template whose pieces have a text renders to it, whatever it is rendered for. -/
theorem render_eq_ok {template : Template} {context : Value} {text : String} (label : String)
    (h : renderText? { context } template.pieces = some text) :
    template.render label context = .ok text := by
  rw [renderText?, Option.map_eq_some_iff] at h
  obtain ⟨texts, htexts, rfl⟩ := h
  rw [render, htexts]

/-! ### Texts and values -/

theorem display_string (text : String) : display (some (.string text)) = text := rfl

/-- Texts that are put into another one are taken as they are. -/
theorem toString_string (text : String) : toString text = text := rfl

theorem renderText?_text (text : String) (pieces : List Piece) :
    renderText? scope (.text text :: pieces) = (renderText? scope pieces).map (text ++ ·) := by
  rw [renderText?_cons, renderPiece?, Option.bind_some, String.join_cons, String.join_nil,
    String.append_empty]

theorem renderText?_value (path : Path) (pieces : List Piece) :
    renderText? scope (.value path :: pieces) = (scope.resolve? path).bind fun value =>
      (renderText? scope pieces).map (display value ++ ·) := by
  rw [renderText?_cons, renderPiece?]
  cases scope.resolve? path with
  | none => rfl
  | some value =>
    have hjoin : String.join [display value] = display value :=
      String.join_cons.trans String.append_empty
    exact congrArg (fun text : String => (renderText? scope pieces).map (text ++ ·)) hjoin

/-- The number of members of a list. -/
theorem renderText?_count {path : Path} {items : List Value}
    (h : scope.resolve? path = some (some (.array items))) (pieces : List Piece) :
    renderText? scope (.count path :: pieces) =
      (renderText? scope pieces).map (toString items.length ++ ·) := by
  have hpiece : renderPiece? scope (.count path) = some [toString items.length] := by
    rw [renderPiece?, h]
    rfl
  rw [renderText?_cons, hpiece, Option.bind_some, String.join_cons, String.join_nil,
    String.append_empty]

/-! ### Choices -/

theorem renderText?_choose (condition : Path) (yes no pieces : List Piece) :
    renderText? scope (.choose condition yes no :: pieces) =
      (scope.resolve? condition).bind fun value =>
        (if holds value then renderText? scope yes else renderText? scope no).bind fun text =>
          (renderText? scope pieces).map (text ++ ·) := by
  have hchosen (chosen : List Piece) :
      ((renderPieces? scope chosen).bind fun texts =>
        (renderText? scope pieces).map (String.join texts ++ ·)) =
      (renderText? scope chosen).bind fun text => (renderText? scope pieces).map (text ++ ·) := by
    show _ = ((renderPieces? scope chosen).map String.join).bind _
    cases renderPieces? scope chosen <;> rfl
  rw [renderText?_cons, renderPiece?]
  cases scope.resolve? condition with
  | none => rfl
  | some value =>
    simp only [Option.bind_eq_bind, Option.bind_some]
    cases holds value with
    | true => exact hchosen yes
    | false => exact hchosen no

/-- Where there is nothing but a choice, its text is that of the part that is chosen. -/
theorem renderText?_only_choose {condition : Path} {value : Option Value}
    (h : scope.resolve? condition = some value) (yes no : List Piece) :
    renderText? scope [.choose condition yes no] =
      if holds value then renderText? scope yes else renderText? scope no := by
  have hlast (text? : Option String) :
      (text?.bind fun text => (some "").map (text ++ ·)) = text? := by
    cases text? with
    | none => rfl
    | some text => exact congrArg some String.append_empty
  rw [renderText?_choose, h, Option.bind_some, renderText?_nil, hlast]

/-- A choice between parts that both have a text is one between their texts. -/
theorem ite_some (c : Prop) [Decidable c] (yes no : String) :
    (if c then some yes else some no) = some (if c then yes else no) :=
  (apply_ite some c yes no).symm

/-! ### Repeated parts -/

theorem join_flatten (texts : List (List String)) :
    String.join texts.flatten = String.join (texts.map String.join) := by
  induction texts with
  | nil => rfl
  | cons first texts ih =>
    rw [List.flatten_cons, String.join_append, ih, List.map_cons, String.join_cons]

theorem mapM_join {α : Type} (f : α → Option (List String)) (as : List α) :
    (as.mapM fun a => (f a).map String.join) = (as.mapM f).map (List.map String.join) := by
  induction as with
  | nil => rfl
  | cons a as ih =>
    rw [List.mapM_cons, List.mapM_cons, ih]
    cases f a with
    | none => rfl
    | some texts => cases as.mapM f <;> rfl

/-- A part that has a text for each member is repeated without fail. -/
theorem mapM_some_of {α : Type} {f : α → Option String} {g : α → String}
    (h : ∀ a, f a = some (g a)) (as : List α) : as.mapM f = some (as.map g) := by
  rw [funext h]
  exact List.mapM_pure

theorem mapM_some {α : Type} (g : α → String) (as : List α) :
    (as.mapM fun a => some (g a)) = some (as.map g) :=
  mapM_some_of (fun _ => rfl) as

/-- A repeated part prints one text for each member of a list, in the order of the list. -/
theorem renderText?_each {α : Type} {path : Path} {as : List α} {value : α → Value}
    (h : scope.resolve? path = some (some (.array (as.map value)))) (var : String)
    (body pieces : List Piece) :
    renderText? scope (.each var path body :: pieces) =
      (as.mapM fun a => renderText? (scope.bind var (value a)) body).bind fun texts =>
        (renderText? scope pieces).map (String.join texts ++ ·) := by
  have hpiece : renderPiece? scope (.each var path body) =
      ((as.map value).mapM fun item => renderPieces? (scope.bind var item) body).map
        List.flatten := by
    rw [renderPiece?, h]
    exact @bind_pure_comp Option _ _ _ _ List.flatten _
  have htexts : (as.mapM fun a => renderText? (scope.bind var (value a)) body) =
      ((as.map value).mapM fun item => renderPieces? (scope.bind var item) body).map
        (List.map String.join) := by
    rw [List.mapM_map]
    exact mapM_join _ as
  rw [renderText?_cons, hpiece, htexts]
  cases (as.map value).mapM fun item => renderPieces? (scope.bind var item) body with
  | none => rfl
  | some texts => simp only [Option.map_some, Option.bind_some, join_flatten]

end ProviderCode.Template
