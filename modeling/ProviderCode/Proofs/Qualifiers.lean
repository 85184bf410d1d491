import ProviderCode.Source.Chunk

/-!
# Qualifiers in generated text

Which packages the generator uses in the text that it writes itself.  Names, literals and expressions
that a specification gives are not its own text; they stand as gaps in it.

A package is used where its qualifier and a point stand in the generator's own text, and no character
right before them makes the qualifier the end of another name.  `Place.read` finds all words before
points in one pass, so that texts can be checked one chunk at a time.

Main statement: if every chunk by itself uses allowed packages only and does not end with the
beginning of a qualifier, the whole text uses allowed packages only.
-/

namespace ProviderCode

/-! ### The generator's own text -/

/-- The characters of a chunk; those that the generator does not write itself are gaps. -/
def Chunk.marks : Chunk → List (Option Char)
  | .fixed text => text.toList.map some
  | .qualified package member => (package.qualifier ++ "." ++ member).toList.map some
  | .name text | .verbatim text => text.toList.map fun _ => none
  | .literal text => (Literal.encode text).toList.map fun _ => none

/-- Whether a character continues a name, or selects from what stands before it. -/
def continuesName (c : Char) : Bool := c.isAlphanum || c == '_' || c == '.'

/-- A text that a name is made of, wherever it begins. -/
abbrev IsName (text : String) : Prop := text.toList.all continuesName = true

theorem IsName.append {a b : String} (ha : IsName a) (hb : IsName b) : IsName (a ++ b) := by
  rw [IsName, String.toList_append, List.all_append, ha, hb, Bool.and_self]

namespace Source

def marks (source : Source) : List (Option Char) := source.flatMap Chunk.marks

@[simp] theorem marks_append (a b : Source) : marks (a ++ b) = a.marks ++ b.marks :=
  List.flatMap_append

@[simp] theorem marks_cons (chunk : Chunk) (source : Source) :
    marks (chunk :: source) = chunk.marks ++ source.marks :=
  List.flatMap_cons

/-- A package is used in the generator's own text: its qualifier stands before a point there, and is
not the end of a longer name. -/
def Uses (source : Source) (p : Package) : Prop :=
  ∃ before after, source.marks = before ++ (p.qualifier ++ ".").toList.map some ++ after ∧
    ∀ c, before.getLast? = some (some c) → continuesName c = false

end Source

/-! ### Qualifiers letter by letter -/

/-- The letters of a qualifier. -/
def Package.letters : Package → List Char
  | .context => ['c', 'o', 'n', 't', 'e', 'x', 't']
  | .fmt => ['f', 'm', 't']
  | .attr => ['a', 't', 't', 'r']
  | .types => ['t', 'y', 'p', 'e', 's']
  | .basetypes => ['b', 'a', 's', 'e', 't', 'y', 'p', 'e', 's']
  | .diag => ['d', 'i', 'a', 'g']
  | .schema => ['s', 'c', 'h', 'e', 'm', 'a']
  | .planmodifier => ['p', 'l', 'a', 'n', 'm', 'o', 'd', 'i', 'f', 'i', 'e', 'r']
  | .validator => ['v', 'a', 'l', 'i', 'd', 'a', 't', 'o', 'r']
  | .booldefault => ['b', 'o', 'o', 'l', 'd', 'e', 'f', 'a', 'u', 'l', 't']
  | .float64default => ['f', 'l', 'o', 'a', 't', '6', '4', 'd', 'e', 'f', 'a', 'u', 'l', 't']
  | .int64default => ['i', 'n', 't', '6', '4', 'd', 'e', 'f', 'a', 'u', 'l', 't']
  | .stringdefault => ['s', 't', 'r', 'i', 'n', 'g', 'd', 'e', 'f', 'a', 'u', 'l', 't']
  | .tftypes => ['t', 'f', 't', 'y', 'p', 'e', 's']

theorem Package.toList_qualifier (p : Package) : p.qualifier.toList = p.letters := by
  cases p <;> exact String.toList_ofList

/-- The marks of a qualifier with its point. -/
theorem Package.toList_qualifier_point (p : Package) :
    (p.qualifier ++ ".").toList.map some = p.letters.map some ++ [some '.'] := by
  rw [String.toList_append, p.toList_qualifier, List.map_append]
  rfl

theorem Package.letters_injective : Function.Injective Package.letters := by
  intro p q h
  revert h
  cases p <;> cases q <;> decide

/-- All packages. -/
def Package.all : List Package :=
  [.context, .fmt, .attr, .types, .basetypes, .diag, .schema, .planmodifier, .validator,
    .booldefault, .float64default, .int64default, .stringdefault, .tftypes]

theorem Package.mem_all (p : Package) : p ∈ Package.all := by
  cases p <;> decide

/-! ### One pass -/

/-- A place between two characters. -/
inductive Place
  /-- Where a name can begin. -/
  | free
  /-- In a word that began with a small letter; its letters, last one first. -/
  | word (letters : List Char)
  /-- In another name. -/
  | inside
deriving DecidableEq

namespace Place

def next : Place → Option Char → Place
  | _, none => .free
  | .free, some c => if c.isLower then .word [c] else if continuesName c then .inside else .free
  | .word w, some c =>
    if c = '.' then .inside else if continuesName c then .word (c :: w) else .free
  | .inside, some c => if continuesName c then .inside else .free

/-- The word that ends at a point. -/
def found : Place → Option Char → List (List Char)
  | .word w, some '.' => [w.reverse]
  | _, _ => []

/-- The words before points. -/
def read (place : Place) : List (Option Char) → List (List Char)
  | [] => []
  | mark :: marks => place.found mark ++ (place.next mark).read marks

/-- The place at the end. -/
def after (place : Place) (marks : List (Option Char)) : Place := marks.foldl next place

/-- Whether the word that the place is in, if there is one, is not the beginning of a qualifier. -/
def clear : Place → Bool
  | .word w => Package.all.all fun p => !(w.reverse.isPrefixOf p.letters)
  | .free | .inside => true

/-- In a name, or a word that is not the beginning of a qualifier. -/
def Dead : Place → Prop
  | .free => False
  | .word w => ∀ p : Package, ¬ w.reverse <+: p.letters
  | .inside => True

variable {place : Place}

@[simp] theorem after_nil : place.after [] = place := rfl

@[simp] theorem after_cons (mark : Option Char) (marks : List (Option Char)) :
    place.after (mark :: marks) = (place.next mark).after marks := rfl

@[simp] theorem after_append (a b : List (Option Char)) :
    place.after (a ++ b) = (place.after a).after b :=
  List.foldl_append

@[simp] theorem read_append (a b : List (Option Char)) :
    place.read (a ++ b) = place.read a ++ (place.after a).read b := by
  induction a generalizing place with
  | nil => rfl
  | cons mark a ih => rw [List.cons_append, read, read, ih, List.append_assoc, after_cons]

theorem next_free {mark : Option Char} (h : ∀ c, mark = some c → continuesName c = false) :
    place.next mark = .free := by
  cases mark with
  | none => cases place <;> rfl
  | some c =>
    have hc : continuesName c = false := h c rfl
    have hlower : c.isLower = false := by
      have hcases : (c.isUpper || c.isLower || c.isDigit || c == '_' || c == '.') = false := hc
      simp only [Bool.or_eq_false_iff] at hcases
      exact hcases.1.1.1.2
    have hpoint : c ≠ '.' := by
      rintro rfl
      exact absurd hc (by decide)
    cases place <;> simp [next, hc, hlower, hpoint]

theorem clear_iff : place.clear = true ↔ place = .free ∨ place.Dead := by
  cases place with
  | free => exact iff_of_true rfl (.inl rfl)
  | inside => exact iff_of_true rfl (.inr trivial)
  | word w =>
    simp only [clear, List.all_eq_true, Bool.not_eq_true', reduceCtorEq, false_or, Dead,
      ← Bool.not_eq_true, List.isPrefixOf_iff_prefix]
    exact ⟨fun h p => h p p.mem_all, fun h p _ => h p⟩

/-- A mark leads from a dead place to another one, or to where it leads from anywhere. -/
theorem Dead.next (h : place.Dead) (mark : Option Char) :
    (place.next mark).Dead ∨ ∀ other : Place, place.next mark = other.next mark := by
  cases mark with
  | none => exact .inr fun other => by cases place <;> cases other <;> rfl
  | some c =>
    by_cases hc : continuesName c = true
    · left
      cases place with
      | free => exact h.elim
      | inside =>
        rw [Place.next, if_pos hc]
        trivial
      | word w =>
        by_cases hpoint : c = '.'
        · rw [Place.next, if_pos hpoint]
          trivial
        · rw [Place.next, if_neg hpoint, if_pos hc]
          intro p hprefix
          rw [List.reverse_cons] at hprefix
          exact h p ((List.prefix_append _ _).trans hprefix)
    · have hfree : ∀ place : Place, place.next (some c) = .free := fun place =>
        next_free fun d hd => by
          cases hd
          exact Bool.not_eq_true _ ▸ hc
      exact .inr fun other => by rw [hfree, hfree]

theorem Dead.not_found (h : place.Dead) (mark : Option Char) (p : Package) :
    p.letters ∉ place.found mark := by
  intro hfound
  unfold found at hfound
  split at hfound
  · next w =>
    have heq : p.letters = w.reverse := List.mem_singleton.mp hfound
    exact h p (heq ▸ List.prefix_refl _)
  · exact absurd hfound List.not_mem_nil

theorem Dead.after (h : place.Dead) (other : Place) (marks : List (Option Char)) :
    (place.after marks).Dead ∨ place.after marks = other.after marks := by
  induction marks generalizing place other with
  | nil => exact .inl h
  | cons mark marks ih =>
    rw [after_cons, after_cons]
    rcases h.next mark with hdead | hsame
    · exact ih hdead _
    · rw [hsame other]
      exact .inr rfl

/-- From a dead place no more qualifiers are found than from anywhere else. -/
theorem Dead.read (h : place.Dead) (other : Place) {marks : List (Option Char)} {p : Package}
    (hp : p.letters ∈ place.read marks) : p.letters ∈ other.read marks := by
  induction marks generalizing place other with
  | nil => exact absurd hp List.not_mem_nil
  | cons mark marks ih =>
    rw [Place.read, List.mem_append] at hp
    rw [Place.read, List.mem_append]
    have hp := hp.resolve_left (h.not_found mark p)
    rcases h.next mark with hdead | hsame
    · exact .inr (ih hdead _ hp)
    · rw [hsame other] at hp
      exact .inr hp

/-- The letters of the word at a place. -/
def letters : Place → List Char
  | .word letters => letters
  | .free | .inside => []

/-- The words that are found have the letters of the text, and of the word at the beginning. -/
theorem mem_of_read {marks : List (Option Char)} {word : List Char} (h : word ∈ place.read marks) :
    ∀ c ∈ word, c ∈ place.letters ∨ some c ∈ marks := by
  induction marks generalizing place with
  | nil => exact absurd h List.not_mem_nil
  | cons mark marks ih =>
    intro c hc
    rw [read, List.mem_append] at h
    rcases h with h | h
    · unfold found at h
      split at h
      · obtain rfl := List.mem_singleton.mp h
        exact .inl (List.mem_reverse.mp hc)
      · exact absurd h List.not_mem_nil
    · rcases ih h c hc with hin | hin
      · unfold next at hin
        split at hin
        · exact absurd hin List.not_mem_nil
        · next d =>
          split at hin
          · obtain rfl := List.mem_singleton.mp hin
            exact .inr List.mem_cons_self
          · split at hin <;> exact absurd hin List.not_mem_nil
        · next d =>
          split at hin
          · exact absurd hin List.not_mem_nil
          · split at hin
            · rcases List.mem_cons.mp hin with rfl | hin
              · exact .inr List.mem_cons_self
              · exact .inl hin
            · exact absurd hin List.not_mem_nil
        · next d => split at hin <;> exact absurd hin List.not_mem_nil
      · exact .inr (List.mem_cons_of_mem _ hin)

end Place

/-! ### Chunk by chunk -/

/-- A qualifier is read where a name can begin. -/
theorem Package.read_letters (p : Package) :
    Place.free.read (p.letters.map some ++ [some '.']) = [p.letters] ∧
      Place.free.after (p.letters.map some ++ [some '.']) = .inside := by
  cases p <;> decide

/-- All uses of packages are found. -/
theorem Source.Uses.letters_mem {source : Source} {p : Package} (h : source.Uses p) :
    p.letters ∈ Place.free.read source.marks := by
  obtain ⟨before, after, hmarks, hfree⟩ := h
  have hplace : Place.free.after before = .free := by
    rcases List.eq_nil_or_concat before with rfl | ⟨init, mark, rfl⟩
    · rfl
    · rw [List.concat_eq_append] at hfree ⊢
      rw [Place.after_append, Place.after_cons, Place.after_nil]
      exact Place.next_free fun c hc => hfree c (by simp [hc])
  rw [hmarks, p.toList_qualifier_point, Place.read_append, Place.read_append, hplace,
    p.read_letters.1]
  simp

/-- A chunk that uses allowed packages only, and does not end with the beginning of a qualifier. -/
structure Chunk.Within (allowed : Package → Prop) (chunk : Chunk) : Prop where
  clear : (Place.free.after chunk.marks).clear = true
  allows : ∀ p : Package, p.letters ∈ Place.free.read chunk.marks → allowed p

/-- Whether a text uses some packages at most, and does not end with the beginning of a qualifier. -/
def fits (packages : List Package) (text : List Char) : Bool :=
  (Place.free.after (text.map some)).clear &&
    (Place.free.read (text.map some)).all fun word =>
      Package.all.all fun p => packages.contains p || word != p.letters

namespace Chunk.Within

variable {allowed : Package → Prop}

theorem gap {chunk : Chunk} {text : List Char} (h : chunk.marks = text.map fun _ => none) :
    chunk.Within allowed := by
  have hgap : ∀ text : List Char, Place.free.after (text.map fun _ => none) = .free ∧
      Place.free.read (text.map fun _ => none) = [] := by
    intro text
    induction text with
    | nil => exact ⟨rfl, rfl⟩
    | cons c text ih => exact ih
  obtain ⟨hafter, hread⟩ := hgap text
  refine ⟨?_, fun p hp => ?_⟩
  · rw [h, hafter]
    rfl
  · rw [h, hread] at hp
    exact absurd hp List.not_mem_nil

@[simp] theorem name (text : String) : (Chunk.name text).Within allowed := gap rfl

@[simp] theorem literal (text : String) : (Chunk.literal text).Within allowed := gap rfl

@[simp] theorem verbatim (text : String) : (Chunk.verbatim text).Within allowed := gap rfl

/-- A text that fits uses its packages only. -/
theorem fitting {packages : List Package} {text : String} (h : fits packages text.toList = true)
    (hallowed : ∀ p ∈ packages, allowed p) : (Chunk.fixed text).Within allowed := by
  rw [fits, Bool.and_eq_true] at h
  obtain ⟨hclear, hwords⟩ := h
  refine ⟨hclear, fun p hp => ?_⟩
  have hp := List.all_eq_true.mp (List.all_eq_true.mp hwords _ hp) p p.mem_all
  rw [Bool.or_eq_true, bne_self_eq_false] at hp
  exact hallowed p (List.contains_iff_mem.mp (hp.resolve_right Bool.false_ne_true))

/-- The characters of a literal are at hand without decoding it. -/
theorem fixed {packages : List Package} {text : List Char} (h : fits packages text = true)
    (hallowed : ∀ p ∈ packages, allowed p) : (Chunk.fixed (String.ofList text)).Within allowed :=
  fitting (by rw [String.toList_ofList]; exact h) hallowed

/-- A text without qualifiers. -/
theorem plain {text : List Char} (h : fits [] text = true) :
    (Chunk.fixed (String.ofList text)).Within allowed :=
  fixed h fun _ hp => absurd hp List.not_mem_nil

/-- A name of a package uses this package. -/
theorem qualified {p : Package} (hallowed : allowed p) {member : String} (hmember : IsName member) :
    (Chunk.qualified p member).Within allowed := by
  have hinside : ∀ text : List Char, (∀ c ∈ text, continuesName c = true) →
      Place.inside.after (text.map some) = .inside ∧ Place.inside.read (text.map some) = [] := by
    intro text htext
    induction text with
    | nil => exact ⟨rfl, rfl⟩
    | cons c text ih =>
      obtain ⟨hc, htext⟩ := List.forall_mem_cons.mp htext
      have hnext : Place.inside.next (some c) = .inside := by simp [Place.next, hc]
      rw [List.map_cons, Place.after_cons, Place.read, hnext]
      exact ih htext
  obtain ⟨hafter, hread⟩ := hinside member.toList (List.all_eq_true.mp hmember)
  have hmarks : (Chunk.qualified p member).marks =
      (p.letters.map some ++ [some '.']) ++ member.toList.map some := by
    rw [Chunk.marks, String.toList_append, List.map_append, p.toList_qualifier_point]
  refine ⟨?_, fun q hq => ?_⟩
  · rw [hmarks, Place.after_append, p.read_letters.2, hafter]
    rfl
  · rw [hmarks, Place.read_append, p.read_letters.1, p.read_letters.2, hread] at hq
    obtain rfl := Package.letters_injective (List.mem_singleton.mp hq)
    exact hallowed

/-- A text without small letters begins no word. -/
theorem noSmallLetters {text : String} (h : ∀ c ∈ text.toList, c.isLower = false) :
    (Chunk.fixed text).Within allowed := by
  have hno : ∀ (marks : List Char) (place : Place), place = .free ∨ place = .inside →
      (∀ c ∈ marks, c.isLower = false) →
      (place.after (marks.map some) = .free ∨ place.after (marks.map some) = .inside) ∧
        place.read (marks.map some) = [] := by
    intro marks
    induction marks with
    | nil => exact fun place hplace _ => ⟨hplace, rfl⟩
    | cons c marks ih =>
      intro place hplace hmarks
      obtain ⟨hc, hmarks⟩ := List.forall_mem_cons.mp hmarks
      have hnext : (place.next (some c) = .free ∨ place.next (some c) = .inside) ∧
          place.found (some c) = [] := by
        rcases hplace with rfl | rfl <;> by_cases hname : continuesName c = true <;>
          simp [Place.next, Place.found, hc, hname]
      rw [List.map_cons, Place.after_cons, Place.read, hnext.2]
      exact ih _ hnext.1 hmarks
  obtain ⟨hafter, hread⟩ := hno text.toList .free (.inl rfl) h
  refine ⟨?_, fun p hp => ?_⟩
  · rcases hafter with hafter | hafter <;> exact (congrArg Place.clear hafter).trans rfl
  · rw [Chunk.marks, hread] at hp
    exact absurd hp List.not_mem_nil

theorem natural (n : Nat) : (Chunk.fixed (Nat.repr n)).Within allowed := by
  refine noSmallLetters fun c hc => ?_
  rw [Nat.repr, String.toList_ofList] at hc
  have hdigit : c.isDigit = true := Nat.isDigit_of_mem_toDigits (by decide) (by decide) hc
  have hlower : c.isLower = (decide ('a'.val ≤ c.val) && decide (c.val ≤ 'z'.val)) := rfl
  simp only [hlower, Char.isDigit, Bool.and_eq_true, Bool.and_eq_false_iff, decide_eq_true_eq,
    decide_eq_false_iff_not, ge_iff_le, UInt32.le_iff_toNat_le] at hdigit ⊢
  have hnine : '9'.val.toNat = 57 := rfl
  have ha : 'a'.val.toNat = 97 := rfl
  omega

/-- A text uses no package if it lacks a letter of every qualifier. -/
theorem lettersMissing {text : String} (hclear : (Place.free.after (text.toList.map some)).clear = true)
    (hmissing : ∀ p : Package, ∃ c ∈ p.letters, c ∉ text.toList) :
    (Chunk.fixed text).Within allowed := by
  refine ⟨hclear, fun p hp => ?_⟩
  obtain ⟨c, hc, hnot⟩ := hmissing p
  rcases Place.mem_of_read hp c hc with hmem | hmem
  · exact absurd hmem List.not_mem_nil
  · obtain ⟨d, hd, heq⟩ := List.mem_map.mp hmem
    cases heq
    exact absurd hd hnot

end Chunk.Within

namespace Source

variable {allowed : Package → Prop}

/-- Every chunk uses allowed packages only, and none ends in the middle of a word. -/
def Within (allowed : Package → Prop) (source : Source) : Prop :=
  ∀ chunk ∈ source, chunk.Within allowed

@[simp] theorem within_nil : Within allowed [] := fun _ h => absurd h List.not_mem_nil

@[simp] theorem within_cons {chunk : Chunk} {source : Source} :
    Within allowed (chunk :: source) ↔ chunk.Within allowed ∧ Within allowed source :=
  List.forall_mem_cons

@[simp] theorem within_append {a b : Source} :
    Within allowed (a ++ b) ↔ Within allowed a ∧ Within allowed b :=
  List.forall_mem_append

@[simp] theorem within_enclose {opening inner closing : Source} :
    Within allowed (Source.enclose opening inner closing) ↔
      Within allowed opening ∧ Within allowed inner ∧ Within allowed closing := by
  rw [enclose, within_append, within_append, and_assoc]

theorem within_flatMap {α : Type} {f : α → Source} {as : List α}
    (h : ∀ a ∈ as, Within allowed (f a)) : Within allowed (as.flatMap f) := fun chunk hchunk => by
  obtain ⟨a, ha, hin⟩ := List.mem_flatMap.mp hchunk
  exact h a ha chunk hin

theorem Within.mono {more : Package → Prop} {source : Source} (h : source.Within allowed)
    (himp : ∀ p, allowed p → more p) : source.Within more := fun chunk hchunk =>
  ⟨(h chunk hchunk).clear, fun p hp => himp p ((h chunk hchunk).allows p hp)⟩

/-- Chunks are read one after the other, each from a clear place; from there no other qualifiers are
found than those that the chunk has by itself. -/
theorem Within.read {source : Source} (h : source.Within allowed) {place : Place}
    (hclear : place.clear = true) {p : Package} (hp : p.letters ∈ place.read source.marks) :
    allowed p := by
  induction source generalizing place with
  | nil => exact absurd hp List.not_mem_nil
  | cons chunk source ih =>
    obtain ⟨hchunk, hsource⟩ := within_cons.mp h
    have hboth : (p.letters ∈ place.read chunk.marks → p.letters ∈ Place.free.read chunk.marks) ∧
        (place.after chunk.marks).clear = true := by
      rcases Place.clear_iff.mp hclear with rfl | hdead
      · exact ⟨fun hread => hread, hchunk.clear⟩
      · refine ⟨hdead.read .free, ?_⟩
        rcases hdead.after .free chunk.marks with hafter | hsame
        · exact Place.clear_iff.mpr (.inr hafter)
        · rw [hsame]
          exact hchunk.clear
    rw [marks_cons, Place.read_append, List.mem_append] at hp
    rcases hp with hp | hp
    · exact hchunk.allows p (hboth.1 hp)
    · exact ih hsource hboth.2 hp

/-- **A text uses allowed packages only** if all its chunks do. -/
theorem Within.uses {source : Source} (h : source.Within allowed) {p : Package}
    (hp : source.Uses p) : allowed p :=
  h.read rfl hp.letters_mem

/-! ### Texts that use a package -/

/-- The source of a member stands in one piece in that of the list. -/
theorem part_of_mem {α : Type} (f : α → Source) {as : List α} {a : α} (ha : a ∈ as) :
    f a <:+: as.flatMap f := by
  obtain ⟨left, right, rfl⟩ := List.append_of_mem ha
  refine ⟨left.flatMap f, right.flatMap f, ?_⟩
  rw [List.flatMap_append, List.flatMap_cons, List.append_assoc]

/-- A package is used after some character of the text, and so wherever the text stands. -/
def UsesInside (source : Source) (p : Package) : Prop :=
  ∃ before mark after, source.marks = before ++ mark :: (p.qualifier ++ ".").toList.map some ++ after ∧
    ∀ c, mark = some c → continuesName c = false

namespace UsesInside

variable {source : Source} {p : Package}

theorem uses (h : source.UsesInside p) : source.Uses p := by
  obtain ⟨before, mark, after, hmarks, hfree⟩ := h
  refine ⟨before ++ [mark], after, ?_, fun c hc => ?_⟩
  · rw [hmarks, List.append_cons]
  · rw [List.getLast?_concat] at hc
    exact hfree c (Option.some.inj hc)

theorem mono (h : source.UsesInside p) {whole : Source} (hpart : source <:+: whole) :
    whole.UsesInside p := by
  obtain ⟨left, right, rfl⟩ := hpart
  obtain ⟨before, mark, after, hmarks, hfree⟩ := h
  refine ⟨marks left ++ before, mark, after ++ marks right, ?_, hfree⟩
  rw [marks_append, marks_append, hmarks]
  simp only [List.append_assoc]

theorem before {source : Source} (h : source.UsesInside p) (more : Source) :
    (source ++ more).UsesInside p :=
  h.mono (List.prefix_append _ _).isInfix

theorem behind {source : Source} (h : source.UsesInside p) (more : Source) :
    (more ++ source).UsesInside p :=
  h.mono (List.suffix_append _ _).isInfix

theorem flatMap {α : Type} (f : α → Source) {as : List α} {a : α} (ha : a ∈ as)
    (h : (f a).UsesInside p) : Source.UsesInside (as.flatMap f) p :=
  h.mono (part_of_mem f ha)

/-- The marks are those of the characters of the text, so what uses a package is not empty. -/
theorem text_ne_empty (h : source.UsesInside p) : source.text ≠ "" := by
  have hnil : ∀ source : Source, source.text = "" → source.marks = [] := by
    intro source
    induction source with
    | nil => exact fun _ => rfl
    | cons chunk source ih =>
      intro hempty
      obtain ⟨hchunk, hsource⟩ := String.append_eq_empty_iff.mp (text_cons chunk source ▸ hempty)
      rw [marks_cons, ih hsource, List.append_nil]
      cases chunk <;> simp_all [Chunk.marks, Chunk.text]
  intro hempty
  obtain ⟨before, mark, after, hmarks, -⟩ := h
  rw [hnil source hempty] at hmarks
  simp at hmarks

/-- A qualified name after a character that ends every other name. -/
theorem qualified {text : List Char} {member : String}
    (hlast : text.getLast?.map continuesName = some false) :
    UsesInside [.fixed (String.ofList text), .qualified p member] p := by
  obtain ⟨init, c, rfl⟩ : ∃ init c, text = init ++ [c] := by
    rcases List.eq_nil_or_concat text with rfl | ⟨init, c, rfl⟩
    · cases hlast
    · exact ⟨init, c, List.concat_eq_append⟩
  have hc : continuesName c = false := by simpa using hlast
  refine ⟨init.map some, some c, member.toList.map some, ?_, fun d hd => ?_⟩
  · simp [marks, Chunk.marks]
  · cases hd
    exact hc

/-- The same after a text that is put together. -/
theorem qualified_append {field : String} {text : List Char} {member : String}
    (hlast : text.getLast?.map continuesName = some false) :
    UsesInside [.fixed (field ++ String.ofList text), .qualified p member] p := by
  have hwhole : field ++ String.ofList text = String.ofList (field.toList ++ text) := by
    rw [String.ofList_append, String.ofList_toList]
  rw [hwhole]
  refine qualified ?_
  cases htext : text.getLast? with
  | none => rw [htext] at hlast; cases hlast
  | some c =>
    rw [htext] at hlast
    rw [List.getLast?_append, htext]
    exact hlast

end UsesInside

/-- Whether a text uses a package after a character that ends every other name. -/
def mentions (p : Package) : List Char → Bool
  | [] => false
  | c :: text => (!continuesName c && (p.letters ++ ['.']).isPrefixOf text) || mentions p text

/-- A fixed text that uses a package by itself. -/
theorem UsesInside.fixed {text : List Char} {p : Package} (htext : mentions p text = true) :
    UsesInside [.fixed (String.ofList text)] p := by
  have hsplit : ∀ text : List Char, mentions p text = true →
      ∃ before c after, text = before ++ c :: (p.letters ++ ['.']) ++ after ∧
        continuesName c = false := by
    intro text
    induction text with
    | nil => exact fun h => nomatch h
    | cons c text ih =>
      intro h
      rw [mentions, Bool.or_eq_true, Bool.and_eq_true, Bool.not_eq_true'] at h
      rcases h with ⟨hc, hprefix⟩ | h
      · obtain ⟨after, rfl⟩ := List.isPrefixOf_iff_prefix.mp hprefix
        exact ⟨[], c, after, rfl, hc⟩
      · obtain ⟨before, d, after, rfl, hd⟩ := ih h
        exact ⟨c :: before, d, after, rfl, hd⟩
  obtain ⟨before, c, after, rfl, hc⟩ := hsplit text htext
  refine ⟨before.map some, some c, after.map some, ?_, fun d hd => ?_⟩
  · rw [p.toList_qualifier_point]
    simp [marks, Chunk.marks]
  · cases hd
    exact hc

end Source

end ProviderCode
