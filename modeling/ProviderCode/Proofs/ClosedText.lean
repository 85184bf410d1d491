import ProviderCode.Proofs.NumberText
import ProviderCode.Source.Chunk
import ProviderCode.Source.Name

/-!
# Lexically closed text

Code is scanned character by character.  Outside string literals parentheses, brackets and braces
are kept in the order in which they were opened; inside a literal a backslash takes the next
character with it.  A text is closed if its scan ends outside literals and without open delimiters.

* `Moves.around`: what a text does to open delimiters it does with others open around them as well.
* `closed_encode`: the literal of every string is closed, whatever the string holds.
* `closed_pascal`: so is the name made of a plain name.
-/

namespace ProviderCode

/-- What is nested in code. -/
inductive Delimiter
  | paren
  | bracket
  | brace
deriving DecidableEq

namespace Delimiter

/-- The delimiter that a character opens. -/
def opened? : Char → Option Delimiter
  | '(' => some .paren
  | '[' => some .bracket
  | '\x7b' => some .brace
  | _ => none

/-- The delimiter that a character closes. -/
def closed? : Char → Option Delimiter
  | ')' => some .paren
  | ']' => some .bracket
  | '\x7d' => some .brace
  | _ => none

end Delimiter

/-! ### Scanning -/

/-- Where a scan is, and the delimiters that are open there, last one first. -/
inductive Lexis
  | code (pending : List Delimiter)
  | literal (pending : List Delimiter)
  /-- In a literal, right after a backslash. -/
  | escaped (pending : List Delimiter)
deriving DecidableEq

namespace Lexis

/-- One character.  Only the delimiter that was opened last can be closed.  With `oneLine` a literal
has to end on its line. -/
def step (oneLine : Bool) : Lexis → Char → Option Lexis
  | .code pending, c =>
    if c = '"' then some (.literal pending)
    else
      match Delimiter.opened? c, Delimiter.closed? c, pending with
      | some d, _, _ => some (.code (d :: pending))
      | none, some d, last :: rest => if d = last then some (.code rest) else none
      | none, some _, [] => none
      | none, none, _ => some (.code pending)
  | .literal pending, c =>
    if c = '"' then some (.code pending)
    else if c = '\\' then some (.escaped pending)
    else if oneLine && c = '\n' then none
    else some (.literal pending)
  | .escaped pending, c => if oneLine && c = '\n' then none else some (.literal pending)

/-- All characters of a text. -/
def scan (oneLine : Bool) (place : Lexis) (text : List Char) : Option Lexis :=
  text.foldlM (step oneLine) place

/-- The same place with more delimiters open around it. -/
def around (extra : List Delimiter) : Lexis → Lexis
  | .code pending => .code (pending ++ extra)
  | .literal pending => .literal (pending ++ extra)
  | .escaped pending => .escaped (pending ++ extra)

variable {oneLine : Bool} {place next : Lexis}

@[simp] theorem scan_nil : place.scan oneLine [] = some place := rfl

@[simp] theorem scan_cons (c : Char) (text : List Char) :
    place.scan oneLine (c :: text) =
      (place.step oneLine c).bind fun next => next.scan oneLine text :=
  List.foldlM_cons

theorem scan_append (a b : List Char) :
    place.scan oneLine (a ++ b) = (place.scan oneLine a).bind fun next => next.scan oneLine b :=
  List.foldlM_append

theorem step_around {c : Char} (extra : List Delimiter) (h : place.step oneLine c = some next) :
    (place.around extra).step oneLine c = some (next.around extra) := by
  cases place with
  | code pending =>
    simp only [step, around] at h ⊢
    split at h
    · next hc =>
      cases h
      rw [if_pos hc]
    · next hc =>
      rw [if_neg hc]
      split at h
      · next hopened =>
        cases h
        simp only [hopened, List.cons_append]
      · next hopened hclosed =>
        simp only [hopened, hclosed, List.cons_append]
        split at h
        · next hd =>
          cases h
          rw [if_pos hd]
        · cases h
      · cases h
      · next hopened hclosed =>
        cases h
        simp only [hopened, hclosed]
  | literal pending =>
    simp only [step, around] at h ⊢
    split at h
    · next hc =>
      cases h
      rw [if_pos hc]
    · next hc =>
      rw [if_neg hc]
      split at h
      · next hc =>
        cases h
        rw [if_pos hc]
      · next hc =>
        rw [if_neg hc]
        split at h
        · cases h
        · next hc =>
          cases h
          rw [if_neg hc]
  | escaped pending =>
    simp only [step, around] at h ⊢
    split at h
    · cases h
    · next hc =>
      cases h
      rw [if_neg hc]

theorem scan_around {text : List Char} (extra : List Delimiter)
    (h : place.scan oneLine text = some next) :
    (place.around extra).scan oneLine text = some (next.around extra) := by
  induction text generalizing place with
  | nil =>
    cases h
    rfl
  | cons c text ih =>
    rw [scan_cons, Option.bind_eq_some_iff] at h
    obtain ⟨middle, hstep, hscan⟩ := h
    rw [scan_cons, step_around extra hstep, Option.bind_some, ih hscan]

/-- Characters that no step leaves a place with leave it together. -/
theorem scan_of_step {text : List Char} (h : ∀ c ∈ text, place.step oneLine c = some place) :
    place.scan oneLine text = some place := by
  induction text with
  | nil => rfl
  | cons c text ih =>
    rw [List.forall_mem_cons] at h
    rw [scan_cons, h.1, Option.bind_some, ih h.2]

end Lexis

/-! ### Texts -/

/-- The scan of a text leads from some open delimiters to others, and does not end in a literal. -/
def Moves (oneLine : Bool) (text : String) (before after : List Delimiter) : Prop :=
  Lexis.scan oneLine (.code before) text.toList = some (.code after)

/-- A text in which all delimiters are properly nested and all literals end. -/
def Closed (oneLine : Bool) (text : String) : Prop := Moves oneLine text [] []

instance (oneLine : Bool) (text : String) (before after : List Delimiter) :
    Decidable (Moves oneLine text before after) :=
  inferInstanceAs (Decidable (_ = _))

instance (oneLine : Bool) (text : String) : Decidable (Closed oneLine text) :=
  inferInstanceAs (Decidable (Moves oneLine text [] []))

variable {oneLine : Bool} {a b c : String} {before middle after : List Delimiter}

namespace Moves

/-- The scan of a text that is given character by character. -/
theorem given {text : List Char}
    (h : Lexis.scan oneLine (.code before) text = some (.code after)) :
    Moves oneLine (String.ofList text) before after := by
  rw [Moves, String.toList_ofList]
  exact h

theorem nothing : Moves oneLine "" before before := .given rfl

theorem append (ha : Moves oneLine a before middle) (hb : Moves oneLine b middle after) :
    Moves oneLine (a ++ b) before after := by
  rw [Moves] at ha hb ⊢
  rw [String.toList_append, Lexis.scan_append, ha, Option.bind_some, hb]

/-- What a text does to open delimiters it does with others open around them as well. -/
theorem around (h : Moves oneLine a before after) (extra : List Delimiter) :
    Moves oneLine a (before ++ extra) (after ++ extra) :=
  Lexis.scan_around extra h

end Moves

namespace Closed

/-- A closed text changes nothing wherever it stands. -/
theorem anywhere (h : Closed oneLine a) (pending : List Delimiter) :
    Moves oneLine a pending pending :=
  h.around pending

theorem append (ha : Closed oneLine a) (hb : Closed oneLine b) : Closed oneLine (a ++ b) :=
  Moves.append ha hb

/-- A closed text between what opens delimiters and what closes them. -/
theorem between (ha : Moves oneLine a [] middle) (hb : Closed oneLine b)
    (hc : Moves oneLine c middle []) : Closed oneLine (a ++ b ++ c) :=
  (ha.append (hb.anywhere middle)).append hc

end Closed

/-- Delimiters in literals do not count, and only one of the readings lets literals go on. -/
example : Closed true "f(\"]\")" ∧ ¬ Closed true "f(]" ∧ ¬ Closed true "\"\n\"" ∧
    Closed false "\"\n\"" := by decide

/-! ### Characters without a meaning -/

/-- A character that neither begins a literal nor opens or closes anything. -/
def isNeutral (c : Char) : Bool :=
  c != '"' && (Delimiter.opened? c).isNone && (Delimiter.closed? c).isNone

theorem isNeutral_iff {c : Char} : isNeutral c = true ↔
    c ≠ '"' ∧ Delimiter.opened? c = none ∧ Delimiter.closed? c = none := by
  simp only [isNeutral, Bool.and_eq_true, bne_iff_ne, Option.isNone_iff_eq_none, and_assoc]

/-- The characters that are not neutral. -/
def syntaxMarks : List Char := ['"', '(', '[', '\x7b', ')', ']', '\x7d']

/-- The characters of a class without any of these are neutral. -/
theorem isNeutral_of_class {inClass : Char → Bool}
    (h : syntaxMarks.all (fun c => !inClass c) = true) {c : Char} (hc : inClass c = true) :
    isNeutral c = true := by
  have hne (d : Char) (hd : d ∈ syntaxMarks) : c ≠ d := by
    rintro rfl
    have hnot := List.all_eq_true.mp h c hd
    rw [hc] at hnot
    cases hnot
  refine isNeutral_iff.mpr ⟨hne _ (by decide), ?_, ?_⟩
  · unfold Delimiter.opened?
    split <;> first | exact absurd rfl (hne _ (by decide)) | rfl
  · unfold Delimiter.closed?
    split <;> first | exact absurd rfl (hne _ (by decide)) | rfl

theorem closed_of_neutral (h : a.toList.all isNeutral = true) : Closed oneLine a := by
  refine Lexis.scan_of_step fun c hc => ?_
  obtain ⟨hquote, hopened, hclosed⟩ := isNeutral_iff.mp (List.all_eq_true.mp h c hc)
  simp only [Lexis.step, if_neg hquote, hopened, hclosed]

/-- Numbers are written with neutral characters. -/
theorem closed_of_numberText (h : Decimal.NumberText a) : Closed oneLine a :=
  closed_of_neutral (List.all_eq_true.mpr fun c hc => isNeutral_of_class (by decide) (h c hc))

/-! ### Literals -/

section Literals

variable {pending : List Delimiter}

/-- Inside a literal everything but quotes, backslashes and ends of lines stands for itself. -/
theorem step_literal {c : Char} (hquote : c ≠ '"') (hslash : c ≠ '\\') (hline : c ≠ '\n') :
    Lexis.step oneLine (.literal pending) c = some (.literal pending) := by
  rw [Lexis.step, if_neg hquote, if_neg hslash, decide_eq_false hline, Bool.and_false,
    if_neg Bool.false_ne_true]

/-- After a backslash everything but the end of a line stands for itself. -/
theorem step_escaped {c : Char} (hline : c ≠ '\n') :
    Lexis.step oneLine (.escaped pending) c = some (.literal pending) := by
  rw [Lexis.step, decide_eq_false hline, Bool.and_false, if_neg Bool.false_ne_true]

/-- A hexadecimal digit is none of the characters that mean something in a literal. -/
theorem step_hexDigit (n : Nat) :
    Lexis.step oneLine (.literal pending) (Nat.digitChar (n % 16)) = some (.literal pending) := by
  have hall : ∀ d : Fin 16, Nat.digitChar d ≠ '"' ∧ Nat.digitChar d ≠ '\\' ∧
      Nat.digitChar d ≠ '\n' := by decide
  obtain ⟨hquote, hslash, hline⟩ := hall ⟨n % 16, Nat.mod_lt _ (by decide)⟩
  exact step_literal hquote hslash hline

/-- Every character of a string stays inside the literal. -/
theorem scan_escape (c : Char) :
    Lexis.scan oneLine (.literal pending) (Literal.escape c) = some (.literal pending) := by
  have hpair : ∀ d : Char, d ≠ '\n' →
      Lexis.scan oneLine (.literal pending) ['\\', d] = some (.literal pending) := fun d hd => by
    have hslash : Lexis.step oneLine (.literal pending) '\\' = some (.escaped pending) := rfl
    rw [Lexis.scan_cons, hslash, Option.bind_some, Lexis.scan_cons, step_escaped hd]
    rfl
  unfold Literal.escape
  split
  · exact hpair _ (by decide)
  · exact hpair _ (by decide)
  · exact hpair _ (by decide)
  · exact hpair _ (by decide)
  · exact hpair _ (by decide)
  · next hquote hslash hline _ _ =>
    split
    · have hquad : Lexis.scan oneLine (.literal pending) (Literal.hexQuad c.toNat) =
          some (.literal pending) := by
        simp only [Literal.hexQuad, List.map_cons, List.map_nil, Lexis.scan_cons, step_hexDigit,
          Option.bind_some, Lexis.scan_nil]
      have hletter := hpair 'u' (by decide)
      have hsplit : '\\' :: 'u' :: Literal.hexQuad c.toNat =
          ['\\', 'u'] ++ Literal.hexQuad c.toNat := rfl
      rw [hsplit, Lexis.scan_append, hletter, Option.bind_some, hquad]
    · rw [Lexis.scan_cons, step_literal hquote hslash hline]
      rfl

/-- **Literals are closed.**  Whatever a string holds, its literal ends where it should. -/
theorem closed_encode (s : String) : Closed oneLine (Literal.encode s) := by
  have hbody : ∀ text : List Char,
      Lexis.scan oneLine (.literal []) (text.flatMap Literal.escape) = some (.literal []) := by
    intro text
    induction text with
    | nil => rfl
    | cons c text ih => rw [List.flatMap_cons, Lexis.scan_append, scan_escape, Option.bind_some, ih]
  have hopening : Lexis.scan oneLine (.code []) ['"'] = some (.literal []) := rfl
  have hclosing : Lexis.scan oneLine (.literal []) ['"'] = some (.code []) := rfl
  have hquote : (Literal.encode s).toList =
      ['"'] ++ s.toList.flatMap Literal.escape ++ ['"'] := by
    rw [Literal.encode, String.toList_append, String.toList_append, String.toList_ofList,
      String.toList_ofList]
  rw [Closed, Moves, hquote, Lexis.scan_append, Lexis.scan_append, hopening,
    Option.bind_some, hbody, Option.bind_some, hclosing]

end Literals

/-! ### Names -/

/-- A name of ASCII letters, digits, underscores and hyphens. -/
def PlainName (name : String) : Prop :=
  name.toList.all (fun c => c.isAlphanum || Name.isJoint c) = true

instance (name : String) : Decidable (PlainName name) := inferInstanceAs (Decidable (_ = _))

namespace Name

/-- What lies between gaps is characters of the text that are no gaps. -/
theorem stretches_subset {isGap : Char → Bool} {text : List Char} :
    ∀ stretch ∈ stretches isGap text, ∀ c ∈ stretch, c ∈ text ∧ isGap c = false := by
  induction text with
  | nil =>
    intro stretch hstretch c hc
    rw [stretches, List.mem_singleton] at hstretch
    rw [hstretch] at hc
    exact absurd hc List.not_mem_nil
  | cons d text ih =>
    have hold : ∀ stretch ∈ stretches isGap text, ∀ c ∈ stretch,
        c ∈ d :: text ∧ isGap c = false :=
      fun stretch hstretch c hc =>
        ⟨List.mem_cons_of_mem d (ih stretch hstretch c hc).1, (ih stretch hstretch c hc).2⟩
    rw [stretches]
    split
    · next first rest hgap hrest =>
      rw [hrest] at hold
      intro stretch hstretch c hc
      rcases List.mem_cons.mp hstretch with rfl | hstretch
      · rcases List.mem_cons.mp hc with rfl | hc
        · exact ⟨List.mem_cons_self, hgap⟩
        · exact hold first List.mem_cons_self c hc
      · exact hold stretch (List.mem_cons_of_mem _ hstretch) c hc
    · intro stretch hstretch c hc
      rcases List.mem_cons.mp hstretch with rfl | hstretch
      · exact absurd hc List.not_mem_nil
      · exact hold stretch hstretch c hc

end Name

/-- A letter or digit is a neutral character, in uppercase as well. -/
theorem isNeutral_uppercase {c d : Char} (h : c.isAlphanum = true) (hd : d ∈ Text.uppercase c) :
    isNeutral d = true := by
  have hascii : c.toNat < 128 := by
    have hcases : ((decide (c.val ≥ 'A'.val ∧ c.val ≤ 'Z'.val) ||
        (decide (c.val ≥ 'a'.val) && decide (c.val ≤ 'z'.val))) ||
        (decide (c.val ≥ '0'.val) && decide (c.val ≤ '9'.val))) = true := h
    simp only [Bool.or_eq_true, Bool.and_eq_true, decide_eq_true_iff] at hcases
    rcases hcases with (⟨-, hle⟩ | ⟨-, hle⟩) | ⟨-, hle⟩ <;>
      exact Nat.lt_of_le_of_lt (UInt32.le_iff_toNat_le.mp hle) (by decide)
  have hupper : ∀ n : Fin 128, (Char.ofNat n).isAlphanum = true →
      isNeutral (Char.ofNat n).toUpper = true := by decide
  rw [Text.uppercase, if_pos hascii, List.mem_singleton] at hd
  have hc := hupper ⟨c.toNat, hascii⟩
  rw [Char.ofNat_toNat] at hc
  exact hd ▸ hc h

/-- **Names are closed.**  The name made of a plain name is letters and digits. -/
theorem closed_pascal {name : String} (h : PlainName name) : Closed oneLine (Name.pascal name) := by
  have hchars : ∀ c ∈ name.toList, Name.isJoint c = false → c.isAlphanum = true := by
    intro c hc hjoint
    have hplain := List.all_eq_true.mp h c hc
    rwa [hjoint, Bool.or_false] at hplain
  refine closed_of_neutral (List.all_eq_true.mpr fun c hc => ?_)
  rw [Name.pascal, String.toList_ofList, Name.pascalChars, List.mem_flatMap] at hc
  obtain ⟨word, hword, hc⟩ := hc
  have hmem := Name.stretches_subset word (List.mem_filter.mp hword).1
  cases word with
  | nil => exact absurd hc List.not_mem_nil
  | cons first rest =>
    rw [Name.capitalize, List.mem_append] at hc
    have hall : ∀ c ∈ first :: rest, c.isAlphanum = true := fun c hc =>
      hchars c (hmem c hc).1 (hmem c hc).2
    rcases hc with hc | hc
    · exact isNeutral_uppercase (hall first List.mem_cons_self) hc
    · exact isNeutral_of_class (by decide) (hall c (List.mem_cons_of_mem _ hc))

end ProviderCode
