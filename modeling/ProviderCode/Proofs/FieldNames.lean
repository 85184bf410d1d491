import Mathlib.Data.List.Flatten
import ProviderCode.Source.Name

/-!
# Names that are one in Pascal case

Pascal case leaves the joints of a name out and capitalises what follows them.  What is lost is a joint
before a character that has no capital form, a joint at an end, and all but one of several joints in a
row.

* `pascalChars_eq`: Pascal case is the spelling of the marked characters of a name.
* `pascal_eq_iff`: two names of small letters, digits and joints are one in Pascal case exactly if they
  have the same letters and digits, and the same letters begin words.
* `eq_of_pascal_eq`: two names whose words are joined by single underscores, each word beginning with a
  small letter, are one in Pascal case only if they are one name.
-/

namespace ProviderCode.Name

/-! ### Pascal case, character by character -/

/-- The characters of a name without its joints, each with whether it begins a word. -/
def marks : Bool → List Char → List (Char × Bool)
  | _, [] => []
  | start, c :: cs => if isJoint c then marks true cs else (c, start) :: marks false cs

/-- A marked character in Pascal case. -/
def spell (mark : Char × Bool) : List Char := if mark.2 then Text.uppercase mark.1 else [mark.1]

theorem flatMap_words {isGap : Char → Bool} (cs : List Char) :
    (words isGap cs).flatMap capitalize = (stretches isGap cs).flatMap capitalize := by
  rw [words]
  induction stretches isGap cs with
  | nil => rfl
  | cons stretch rest ih =>
    cases stretch with
    | nil => exact ih
    | cons c cs => rw [List.filter_cons_of_pos rfl, List.flatMap_cons, List.flatMap_cons, ih]

/-- Within a word and at the beginning of one, the marked characters are spelled as the stretches
are. -/
theorem flatMap_marks (cs : List Char) :
    ∃ stretch rest, stretches isJoint cs = stretch :: rest ∧
      (marks false cs).flatMap spell = stretch ++ rest.flatMap capitalize ∧
      (marks true cs).flatMap spell = capitalize stretch ++ rest.flatMap capitalize := by
  induction cs with
  | nil => exact ⟨[], [], rfl, rfl, rfl⟩
  | cons c cs ih =>
    obtain ⟨stretch, rest, hstretches, hwithin, hstart⟩ := ih
    cases hc : isJoint c with
    | true =>
      refine ⟨[], stretch :: rest, by simp only [stretches, hc, hstretches], ?_, ?_⟩
      · simp only [marks, hc, if_true, hstart, List.nil_append, List.flatMap_cons]
      · simp only [marks, hc, if_true, hstart, capitalize, List.nil_append, List.flatMap_cons]
    | false =>
      refine ⟨c :: stretch, rest, by simp only [stretches, hc, hstretches], ?_, ?_⟩
      · simp [marks, hc, spell, hwithin]
      · simp [marks, hc, spell, hwithin, capitalize]

/-- **Pascal case** spells the characters of a name without its joints. -/
theorem pascalChars_eq (cs : List Char) : pascalChars cs = (marks true cs).flatMap spell := by
  obtain ⟨stretch, rest, hstretches, -, hstart⟩ := flatMap_marks cs
  rw [pascalChars, flatMap_words, hstretches, hstart, List.flatMap_cons]

/-! ### Plain names -/

def letters : List Char := "abcdefghijklmnopqrstuvwxyz".toList

def digits : List Char := "0123456789".toList

def isLetter (c : Char) : Bool := letters.contains c

/-- Small letters and digits. -/
def isWordChar (c : Char) : Bool := (letters ++ digits).contains c

/-- Whether characters are small letters, digits and joints. -/
def isPlain (cs : List Char) : Bool := cs.all fun c => isWordChar c || isJoint c

/-- The letters and digits of a name, each with whether it is a letter that begins a word. -/
def initials (start : Bool) (cs : List Char) : List (Char × Bool) :=
  (marks start cs).map fun mark => (mark.1, mark.2 && isLetter mark.1)

/-- An initial is written as a capital. -/
def write (mark : Char × Bool) : Char := if mark.2 then mark.1.toUpper else mark.1

/-- A capital is read as an initial. -/
def read (c : Char) : Char × Bool := if c.isUpper then (c.toLower, true) else (c, false)

/-- A word character in Pascal case is one character, from which it can be read back. -/
theorem wordChars_spelled : (letters ++ digits).all fun c => !isJoint c && [true, false].all fun start =>
    spell (c, start) == [write (c, start && isLetter c)] &&
      read (write (c, start && isLetter c)) == (c, start && isLetter c) := by
  decide +kernel

theorem isJoint_of_isWordChar {c : Char} (h : isWordChar c = true) : isJoint c = false := by
  have hfacts := List.all_eq_true.mp wordChars_spelled c (List.contains_iff_mem.mp h)
  rw [Bool.and_eq_true, Bool.not_eq_true'] at hfacts
  exact hfacts.1

theorem spell_eq_and_read_write {c : Char} (h : isWordChar c = true) (start : Bool) :
    spell (c, start) = [write (c, start && isLetter c)] ∧
      read (write (c, start && isLetter c)) = (c, start && isLetter c) := by
  have hfacts := List.all_eq_true.mp wordChars_spelled c (List.contains_iff_mem.mp h)
  rw [Bool.and_eq_true] at hfacts
  have hstart := List.all_eq_true.mp hfacts.2 start (by cases start <;> simp)
  rwa [Bool.and_eq_true, beq_iff_eq, beq_iff_eq] at hstart

theorem isWordChar_of_isLetter {c : Char} (h : isLetter c = true) : isWordChar c = true :=
  List.contains_iff_mem.mpr (List.mem_append_left _ (List.contains_iff_mem.mp h))

variable {cs : List Char}

theorem isPlain_cons {c : Char} :
    isPlain (c :: cs) = true ↔ (isWordChar c || isJoint c) = true ∧ isPlain cs = true := by
  rw [isPlain, List.all_cons, Bool.and_eq_true]
  rfl

/-- A plain name in Pascal case has its initials as capitals. -/
theorem map_write_initials (h : isPlain cs = true) :
    pascalChars cs = (initials true cs).map write := by
  rw [pascalChars_eq]
  generalize true = start
  induction cs generalizing start with
  | nil => rfl
  | cons c cs ih =>
    obtain ⟨hc, hcs⟩ := isPlain_cons.mp h
    rw [initials, marks]
    split
    · exact ih hcs true
    · next hjoint =>
      have hword : isWordChar c = true := by simpa [hjoint] using hc
      rw [List.flatMap_cons, (spell_eq_and_read_write hword start).1, ih hcs false]
      rfl

/-- The initials of a plain name can be read off its Pascal case. -/
theorem map_read_pascalChars (h : isPlain cs = true) :
    (pascalChars cs).map read = initials true cs := by
  rw [map_write_initials h]
  generalize true = start
  induction cs generalizing start with
  | nil => rfl
  | cons c cs ih =>
    obtain ⟨hc, hcs⟩ := isPlain_cons.mp h
    rw [initials, marks]
    split
    · exact ih hcs true
    · next hjoint =>
      have hword : isWordChar c = true := by simpa [hjoint] using hc
      have hrest := ih hcs false
      rw [initials] at hrest
      rw [List.map_cons, List.map_cons, List.map_cons, (spell_eq_and_read_write hword start).2, hrest]

/-- **Plain names.**  Two of them are one in Pascal case exactly if they have the same letters and
digits, and the same letters begin words. -/
theorem pascal_eq_iff {a b : String} (ha : isPlain a.toList = true) (hb : isPlain b.toList = true) :
    pascal a = pascal b ↔ initials true a.toList = initials true b.toList := by
  rw [pascal, pascal, String.ofList_inj]
  constructor
  · intro h
    rw [← map_read_pascalChars ha, ← map_read_pascalChars hb, h]
  · intro h
    rw [map_write_initials ha, map_write_initials hb, h]

/-- Joints before digits do not count, nor do those that do not stand alone between words. -/
example : pascal "port_1" = pascal "port1" ∧ pascal "_a__b" = pascal "a-b" ∧
    pascal "a_b" ≠ pascal "ab" := by
  decide +kernel

/-! ### Snake case -/

/-- Whether characters are words joined by single underscores, each beginning with a small letter and
going on with small letters and digits; a flag says that a word has to begin. -/
def isSnake : Bool → List Char → Bool
  | start, [] => !start
  | true, c :: cs => isLetter c && isSnake false cs
  | false, c :: cs => if c == '_' then isSnake true cs else isWordChar c && isSnake false cs

/-- An initial follows an underscore. -/
def joined (mark : Char × Bool) : List Char := if mark.2 then ['_', mark.1] else [mark.1]

theorem isPlain_of_isSnake : ∀ {start : Bool} {cs : List Char}, isSnake start cs = true →
    isPlain cs = true
  | _, [], _ => rfl
  | true, c :: cs, h => by
    rw [isSnake, Bool.and_eq_true] at h
    exact isPlain_cons.mpr ⟨by simp [isWordChar_of_isLetter h.1], isPlain_of_isSnake h.2⟩
  | false, c :: cs, h => by
    rw [isSnake] at h
    split at h
    · next hc => exact isPlain_cons.mpr ⟨by simp [isJoint, hc], isPlain_of_isSnake h⟩
    · rw [Bool.and_eq_true] at h
      exact isPlain_cons.mpr ⟨by simp [h.1], isPlain_of_isSnake h.2⟩

/-- In snake case, the underscores are where the initials are. -/
theorem flatMap_joined : ∀ {start : Bool} {cs : List Char}, isSnake start cs = true →
    (initials start cs).flatMap joined = if start then '_' :: cs else cs
  | false, [], _ => rfl
  | true, c :: cs, h => by
    rw [isSnake, Bool.and_eq_true] at h
    have hjoint : isJoint c = false := isJoint_of_isWordChar (isWordChar_of_isLetter h.1)
    have hrest := flatMap_joined h.2
    rw [initials, marks, hjoint]
    simp only [initials] at hrest
    simp [joined, h.1, hrest]
  | false, c :: cs, h => by
    rw [isSnake] at h
    rw [initials, marks]
    split at h
    · next hc =>
      obtain rfl : c = '_' := beq_iff_eq.mp hc
      exact flatMap_joined h
    · rw [Bool.and_eq_true] at h
      have hrest := flatMap_joined h.2
      rw [isJoint_of_isWordChar h.1]
      simp only [initials] at hrest
      simp [joined, hrest]

/-- **Snake case.**  Two names in snake case are one in Pascal case only if they are one name. -/
theorem eq_of_pascal_eq {a b : String} (ha : isSnake true a.toList = true)
    (hb : isSnake true b.toList = true) (h : pascal a = pascal b) : a = b := by
  have hinitials := (pascal_eq_iff (isPlain_of_isSnake ha) (isPlain_of_isSnake hb)).mp h
  have hchars : '_' :: a.toList = '_' :: b.toList := by
    calc '_' :: a.toList
      _ = (initials true a.toList).flatMap joined := (flatMap_joined ha).symm
      _ = (initials true b.toList).flatMap joined := by rw [hinitials]
      _ = '_' :: b.toList := flatMap_joined hb
  exact String.toList_inj.mp (List.cons.inj hchars).2

end ProviderCode.Name
