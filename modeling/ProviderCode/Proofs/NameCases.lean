import Mathlib
import ProviderCode.Node.External
import ProviderCode.Proofs.FieldNames

/-!
# The cases of names

Names are put into Pascal case part by part, and so are type expressions: what stands between two parts
ends the one and begins the other, and leaves no trace, wherever it stands and however often.  The star of
a pointer is such a thing.

An ASCII name is an identifier in Pascal case, one of a capital, letters and digits.  Nothing of its Pascal
case is lost in camel case, since capitalising gives it back.

* `words_append_gap`: the words of two texts with a gap between them.
* `byParts_words`: whatever is spelled word by word goes part by part.
* `capitalize_uncapitalize_pascalChars`: Pascal case is read back from camel case.
* `isCapitalWord_pascal`: the form of ASCII names in Pascal case.
-/

namespace ProviderCode

namespace Name

/-! ### Names that are put together -/

theorem stretches_eq_splitOnP {isGap : Char → Bool} (cs : List Char) :
    stretches isGap cs = cs.splitOnP isGap := by
  induction cs with
  | nil => rfl
  | cons c cs ih =>
    obtain ⟨stretch, rest, hsplit⟩ := List.exists_cons_of_ne_nil (List.splitOnP_ne_nil isGap cs)
    rw [List.splitOnP_cons_eq_if_modifyHead, stretches, ih, hsplit]
    cases isGap c <;> rfl

/-- **A gap ends a word**, and begins another one.  That it may stand at an end, or next to another gap,
shows in no case of its own: the texts beside it may be empty. -/
theorem words_append_gap {isGap : Char → Bool} {gap : Char} (h : isGap gap = true)
    (as bs : List Char) : words isGap (as ++ gap :: bs) = words isGap as ++ words isGap bs := by
  simp only [words, stretches_eq_splitOnP]
  rw [List.splitOnP_append_cons as bs h, List.filter_append]

theorem words_of_part {isGap : Char → Bool} {part : List Char} (h : ∀ c ∈ part, isGap c = false) :
    words isGap part = if part.isEmpty then [] else [part] := by
  have hsplit : part.splitOnP isGap = [part] :=
    List.splitOnP_eq_singleton fun c hc => by simp [h c hc]
  rw [words, stretches_eq_splitOnP, hsplit]
  cases part <;> rfl

/-- Texts are put into a case part by part: a text without gaps becomes what its one part becomes, and of
two texts with a gap between them, the one is put into the case and then the other. -/
structure ByParts (cased : String → String) (IsGap : Char → Prop) (ofPart : String → String) :
    Prop where
  of_part : ∀ part : String, (∀ c ∈ part.toList, ¬ IsGap c) → cased part = ofPart part
  append_gap : ∀ (a b : String) (gap : Char), IsGap gap →
    cased (a ++ String.singleton gap ++ b) = cased a ++ cased b

theorem byParts_words {isGap : Char → Bool} {IsGap : Char → Prop} {spellWord : List Char → List Char}
    (hgap : ∀ c, isGap c = true ↔ IsGap c) (hempty : spellWord [] = []) :
    ByParts (fun text => String.ofList ((words isGap text.toList).flatMap spellWord)) IsGap
      fun part => String.ofList (spellWord part.toList) where
  of_part := by
    intro part hpart
    have hwhole : ∀ c ∈ part.toList, isGap c = false := fun c hc =>
      Bool.eq_false_iff.mpr (mt (hgap c).mp (hpart c hc))
    simp only [words_of_part hwhole]
    -- an empty part is no word, and is spelled as if it were one
    split
    · next hnone => rw [List.isEmpty_iff.mp hnone, hempty, List.flatMap_nil]
    · rw [List.flatMap_singleton]
  append_gap := by
    intro a b gap h
    have hchars : (a ++ String.singleton gap ++ b).toList = a.toList ++ gap :: b.toList := by simp
    simp only [hchars, words_append_gap ((hgap gap).mpr h), List.flatMap_append, String.ofList_append]

theorem isJoint_iff (c : Char) : isJoint c = true ↔ c = '_' ∨ c = '-' := by simp [isJoint]

theorem isPunctuation_iff (c : Char) :
    isPunctuation c = true ↔ Text.isAlphanumeric c = false ∧ c ≠ '_' := by simp [isPunctuation]

theorem byParts_pascal : ByParts pascal (fun c => c = '_' ∨ c = '-') fun word =>
    String.ofList (capitalize word.toList) :=
  byParts_words isJoint_iff rfl

theorem byParts_suffix :
    ByParts suffix (fun c => Text.isAlphanumeric c = false ∧ c ≠ '_') pascal :=
  byParts_words isPunctuation_iff rfl

/-- The star of a pointer leaves no trace. -/
theorem suffix_star (expression : String) :
    suffix (String.singleton '*' ++ expression) = suffix expression := by
  have hempty : suffix "" = "" := rfl
  have happend := byParts_suffix.append_gap "" expression '*' ((isPunctuation_iff '*').mp rfl)
  rwa [hempty, String.empty_append, String.empty_append] at happend

end Name

/-- The star of a pointer, or nothing, stands before the type that is referred to. -/
theorem ExternalType.type_eq_reference (t : ExternalType) :
    t.type = String.singleton '*' ++ t.reference ∨ t.type = t.reference := by
  rw [reference]
  split
  · next rest hstar =>
    refine .inl (String.toList_injective ?_)
    rw [hstar]
    simp
  · exact .inr rfl

theorem ExternalType.suffix_reference (t : ExternalType) : Name.suffix t.reference = t.suffix := by
  rw [suffix]
  rcases t.type_eq_reference with h | h
  · rw [h, Name.suffix_star]
  · rw [h]

namespace Name

/-! ### Letters of ASCII -/

theorem uppercase_of_isAscii {c : Char} (h : c.isAscii = true) : Text.uppercase c = [c.toUpper] :=
  if_pos (of_decide_eq_true h)

theorem lowercase_of_isAscii {c : Char} (h : c.isAscii = true) : Text.lowercase c = [c.toLower] :=
  if_pos (of_decide_eq_true h)

theorem isAscii_toUpper_and_toLower {c : Char} (h : c.isAscii = true) :
    c.toUpper.isAscii = true ∧ c.toLower.isAscii = true := by
  have hcodes : ∀ code : Fin 128, (Char.ofNat code).toUpper.isAscii = true ∧
      (Char.ofNat code).toLower.isAscii = true := by decide
  have hc := hcodes ⟨c.toNat, of_decide_eq_true h⟩
  rwa [Char.ofNat_toNat] at hc

theorem isAscii_of_isAlphanum {c : Char} (h : c.isAlphanum = true) : c.isAscii = true := by
  simp only [Char.isAlphanum, Char.isAlpha, Char.isUpper, Char.isLower, Char.isDigit, Bool.or_eq_true,
    Bool.and_eq_true, decide_eq_true_eq, ge_iff_le, UInt32.le_iff_toNat_le] at h
  have hbound : c.val.toNat < 128 := by
    rcases h with (⟨-, hle⟩ | ⟨-, hle⟩) | ⟨-, hle⟩ <;> exact Nat.lt_of_le_of_lt hle (by decide)
  exact decide_eq_true hbound

theorem isAlphanum_toUpper {c : Char} (h : c.isAlphanum = true) : c.toUpper.isAlphanum = true := by
  cases hlower : c.isLower with
  | true =>
    have halpha : c.isAlpha = true := by rw [Char.isAlpha, hlower, Bool.or_true]
    rw [Char.isAlphanum, Char.isAlpha_toUpper_eq_isAlpha, halpha, Bool.true_or]
  | false => rwa [Char.toUpper_eq_of_not_isLower (by simp [hlower])]

/-! ### Pascal case of ASCII names -/

theorem of_mem_marks {mark : Char × Bool} {start : Bool} {cs : List Char} (h : mark ∈ marks start cs) :
    mark.1 ∈ cs ∧ isJoint mark.1 = false := by
  induction cs generalizing start with
  | nil => exact absurd h List.not_mem_nil
  | cons c cs ih =>
    rw [marks] at h
    split at h
    · exact ⟨List.mem_cons_of_mem c (ih h).1, (ih h).2⟩
    · next hjoint =>
      rcases List.mem_cons.mp h with rfl | h
      · exact ⟨List.mem_cons_self, (Bool.not_eq_true _).mp hjoint⟩
      · exact ⟨List.mem_cons_of_mem c (ih h).1, (ih h).2⟩

/-- Whatever joints a name begins with, its first other character begins a word. -/
theorem marks_start (cs : List Char) :
    marks true cs = [] ∨ ∃ c rest, marks true cs = (c, true) :: rest := by
  induction cs with
  | nil => exact .inl rfl
  | cons c cs ih =>
    rw [marks]
    split
    · exact ih
    · exact .inr ⟨c, marks false cs, rfl⟩

/-- In ASCII, each character of Pascal case is written for one character of the name. -/
theorem pascalChars_eq_map_write {cs : List Char} (h : cs.all Char.isAscii = true) :
    pascalChars cs = (marks true cs).map write := by
  rw [pascalChars_eq, List.map_eq_flatMap]
  refine List.flatMap_congr fun mark hmark => ?_
  have hascii := List.all_eq_true.mp h mark.1 (of_mem_marks hmark).1
  rw [spell, write]
  split
  · exact uppercase_of_isAscii hascii
  · rfl

/-- **Reading camel case.**  Capitalising what an ASCII name is in camel case gives its Pascal case: the
first character of Pascal case is no small letter, so it is lost in no other one's small form. -/
theorem capitalize_uncapitalize_pascalChars {cs : List Char} (h : cs.all Char.isAscii = true) :
    capitalize (uncapitalize (pascalChars cs)) = pascalChars cs := by
  rw [pascalChars_eq_map_write h]
  rcases marks_start cs with hmarks | ⟨c, rest, hmarks⟩
  · rw [hmarks]
    rfl
  · have hmem : (c, true) ∈ marks true cs := hmarks ▸ List.mem_cons_self
    have hc : c.isAscii = true := List.all_eq_true.mp h c (of_mem_marks hmem).1
    have hupper : c.toUpper.isAscii = true := (isAscii_toUpper_and_toLower hc).1
    have hlower : c.toUpper.toLower.isAscii = true := (isAscii_toUpper_and_toLower hupper).2
    have hback : c.toUpper.toLower.toUpper = c.toUpper := by
      rw [Char.toUpper_toLower_eq_toUpper, Char.toUpper_toUpper_eq_toUpper]
    rw [hmarks, List.map_cons, write, if_pos rfl, uncapitalize, lowercase_of_isAscii hupper,
      List.singleton_append, capitalize, uppercase_of_isAscii hlower, hback, List.singleton_append]

theorem camel_eq_iff {a b : String} (ha : a.toList.all Char.isAscii = true)
    (hb : b.toList.all Char.isAscii = true) : camel a = camel b ↔ pascal a = pascal b := by
  rw [camel, camel, pascal, pascal, String.ofList_inj, String.ofList_inj]
  constructor
  · intro h
    rw [← capitalize_uncapitalize_pascalChars ha, h, capitalize_uncapitalize_pascalChars hb]
  · exact congrArg uncapitalize

/-- Beyond ASCII a capital can be lost: the Kelvin sign has the small form of the letter K. -/
example : camel "\u212a" = camel "k" ∧ pascal "\u212a" ≠ pascal "k" := by
  decide +kernel

/-! ### Identifiers -/

/-- A character of one kind, and then characters of another. -/
def isWord (first rest : Char → Bool) : List Char → Bool
  | [] => false
  | c :: cs => first c && cs.all rest

/-- An ASCII name: a letter, then letters, digits, underscores and hyphens. -/
def isAsciiName (name : String) : Bool :=
  isWord Char.isAlpha (fun c => c.isAlphanum || c == '_' || c == '-') name.toList

/-- A capital, then letters and digits. -/
def isCapitalWord (name : String) : Bool := isWord Char.isUpper Char.isAlphanum name.toList

/-- The words that generated code keeps for itself. -/
def keywords : List String := ["break", "case", "chan", "const", "continue", "default", "defer",
  "else", "fallthrough", "for", "func", "go", "goto", "if", "import", "interface", "map", "package",
  "range", "return", "select", "struct", "switch", "type", "var"]

/-- An identifier of generated code, in ASCII: a letter or an underscore, then letters, digits and
underscores, and no keyword. -/
def isIdentifier (name : String) : Bool :=
  isWord (fun c => c.isAlpha || c == '_') (fun c => c.isAlphanum || c == '_') name.toList &&
    !keywords.contains name

theorem isWord_iff {first rest : Char → Bool} {cs : List Char} :
    isWord first rest cs = true ↔
      ∃ c tail, cs = c :: tail ∧ first c = true ∧ ∀ d ∈ tail, rest d = true := by
  cases cs with
  | nil => simp [isWord]
  | cons c tail => simp [isWord]

theorem isIdentifier_of_isCapitalWord {name : String} (h : isCapitalWord name = true) :
    isIdentifier name = true := by
  have hsmall : keywords.all (fun keyword => !isCapitalWord keyword) = true := by decide +kernel
  have hkeyword : keywords.contains name = false := by
    refine Bool.eq_false_iff.mpr fun hmem => ?_
    have hname := List.all_eq_true.mp hsmall name (List.contains_iff_mem.mp hmem)
    rw [h] at hname
    cases hname
  obtain ⟨c, tail, hchars, hc, htail⟩ := isWord_iff.mp h
  rw [isIdentifier, hkeyword, Bool.not_false, Bool.and_true, isWord_iff]
  refine ⟨c, tail, hchars, ?_, fun d hd => ?_⟩
  · rw [Char.isAlpha, hc, Bool.true_or, Bool.true_or]
  · rw [htail d hd, Bool.true_or]

theorem isAscii_of_isNameChar {c : Char} (h : (c.isAlphanum || isJoint c) = true) :
    c.isAscii = true := by
  rcases (Bool.or_eq_true _ _).mp h with halphanum | hjoint
  · exact isAscii_of_isAlphanum halphanum
  · rcases (isJoint_iff c).mp hjoint with rfl | rfl <;> rfl

theorem isJoint_of_isAlpha {c : Char} (h : c.isAlpha = true) : isJoint c = false := by
  refine Bool.eq_false_iff.mpr fun hjoint => ?_
  rcases (isJoint_iff c).mp hjoint with rfl | rfl <;> cases h

theorem isAlphanum_write {mark : Char × Bool} (h : mark.1.isAlphanum = true) :
    (write mark).isAlphanum = true := by
  rw [write]
  split
  · exact isAlphanum_toUpper h
  · exact h

/-- What is written for letters, digits and joints is letters and digits. -/
theorem isAlphanum_of_mem_written {start : Bool} {cs : List Char}
    (h : ∀ c ∈ cs, (c.isAlphanum || isJoint c) = true) :
    ∀ d ∈ (marks start cs).map write, d.isAlphanum = true := by
  intro d hd
  obtain ⟨mark, hmark, rfl⟩ := List.mem_map.mp hd
  obtain ⟨hmem, hjoint⟩ := of_mem_marks hmark
  have hchar := h mark.1 hmem
  rw [hjoint, Bool.or_false] at hchar
  exact isAlphanum_write hchar

/-- **Pascal case of an ASCII name** is a capital, and then letters and digits. -/
theorem isCapitalWord_pascal {name : String} (h : isAsciiName name = true) :
    isCapitalWord (pascal name) = true := by
  obtain ⟨c, tail, hchars, hc, hrest⟩ := isWord_iff.mp h
  have hfirst : (c.isAlphanum || isJoint c) = true := by
    rw [Char.isAlphanum, hc, Bool.true_or, Bool.true_or]
  have htail : ∀ d ∈ tail, (d.isAlphanum || isJoint d) = true := by
    intro d hd
    rw [isJoint, ← Bool.or_assoc]
    exact hrest d hd
  have hascii : (c :: tail).all Char.isAscii = true := by
    rw [List.all_cons, isAscii_of_isNameChar hfirst, Bool.true_and]
    exact List.all_eq_true.mpr fun d hd => isAscii_of_isNameChar (htail d hd)
  have hmarks : marks true (c :: tail) = (c, true) :: marks false tail := by
    rw [marks, isJoint_of_isAlpha hc, if_neg Bool.false_ne_true]
  rw [isCapitalWord, pascal, String.toList_ofList, hchars, pascalChars_eq_map_write hascii, hmarks,
    List.map_cons, isWord_iff]
  refine ⟨write (c, true), _, rfl, ?_, isAlphanum_of_mem_written htail⟩
  rw [write, if_pos rfl, Char.isUpper_toUpper_eq_isAlpha, hc]

/-! ### The theorem -/

/-- **The cases of names.**  Names are put into Pascal case part by part, and so are type expressions, for
which the star of a pointer is nothing.  An ASCII name in Pascal case is an identifier of a capital,
letters and digits, and two ASCII names are one in camel case exactly if they are one in Pascal case. -/
theorem names_in_cases :
    ByParts pascal (fun c => c = '_' ∨ c = '-') (fun word =>
      String.ofList (capitalize word.toList)) ∧
    ByParts suffix (fun c => Text.isAlphanumeric c = false ∧ c ≠ '_') pascal ∧
    (∀ t : ExternalType, { t with type := t.reference }.suffix = t.suffix ∧
      { t with type := String.singleton '*' ++ t.type }.suffix = t.suffix) ∧
    (∀ name : String, isAsciiName name = true →
      isCapitalWord (pascal name) = true ∧ isIdentifier (pascal name) = true) ∧
    ∀ a b : String, a.toList.all Char.isAscii = true → b.toList.all Char.isAscii = true →
      (camel a = camel b ↔ pascal a = pascal b) := by
  refine ⟨byParts_pascal, byParts_suffix, fun t => ⟨t.suffix_reference, suffix_star t.type⟩,
    fun name h => ?_, fun _ _ => camel_eq_iff⟩
  exact ⟨isCapitalWord_pascal h, isIdentifier_of_isCapitalWord (isCapitalWord_pascal h)⟩

/-- A name with joints in a row and at its ends, a type of another package and a pointer to it, a name that
is a keyword, and two names that differ in a joint before a digit. -/
theorem names_in_cases_sshKey :
    pascal ("_ssh-" ++ String.singleton '-' ++ "_key-") = "Ssh" ++ "Key" ∧
    (Text.isAlphanumeric '.' = false ∧
      (∀ c ∈ "ssh_key".toList, ¬ (Text.isAlphanumeric c = false ∧ c ≠ '_')) ∧
      suffix ("sdk" ++ String.singleton '.' ++ "ssh_key") = suffix "sdk" ++ pascal "ssh_key") ∧
    ExternalType.suffix { type := String.singleton '*' ++ "sdk.ssh_key" } = "SdkSshKey" ∧
    (isAsciiName "type" = true ∧ isIdentifier "type" = false ∧ isCapitalWord (pascal "type") = true ∧
      isIdentifier (pascal "type") = true) ∧
    ("port_1".toList.all Char.isAscii = true ∧ "port1".toList.all Char.isAscii = true ∧
      camel "port_1" = camel "port1") := by
  obtain ⟨hpascal, hsuffix, hstar, hidentifier, hcamel⟩ := names_in_cases
  have hpoint : Text.isAlphanumeric '.' = false ∧ '.' ≠ '_' := by decide +kernel
  have hword : ∀ c ∈ "ssh_key".toList, ¬ (Text.isAlphanumeric c = false ∧ c ≠ '_') := by
    have hall : "ssh_key".toList.all (fun c => !isPunctuation c) = true := by decide +kernel
    intro c hc
    rw [← isPunctuation_iff]
    simpa using List.all_eq_true.mp hall c hc
  have htype : isAsciiName "type" = true := by decide +kernel
  have hport : "port_1".toList.all Char.isAscii = true := by decide +kernel
  have hport' : "port1".toList.all Char.isAscii = true := by decide +kernel
  refine ⟨?_, ⟨hpoint.1, hword, ?_⟩, ?_, ⟨htype, by decide +kernel, hidentifier "type" htype⟩,
    hport, hport', ?_⟩
  · rw [hpascal.append_gap "_ssh-" "_key-" '-' (.inr rfl)]
    decide +kernel
  · rw [hsuffix.append_gap "sdk" "ssh_key" '.' hpoint, hsuffix.of_part "ssh_key" hword]
  · have hpointer := (hstar { type := "sdk.ssh_key" }).2
    rw [hpointer]
    decide +kernel
  · exact (hcamel "port_1" "port1" hport hport').mpr (by decide +kernel)

end Name

end ProviderCode
