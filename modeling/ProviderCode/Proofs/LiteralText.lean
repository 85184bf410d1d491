import ProviderCode.Proofs.JsonTokens
import ProviderCode.Proofs.Results
import ProviderCode.Source.Literal

/-!
# Reading string literals

What a literal of the generated code stands for.  It is read character by character up to its closing
quote: a backslash begins an escape, an end of line may not stand there, and all other characters stand
for themselves.  The escapes are those that literals are written with, and at any other one reading ends.

Main statements:

* `read?_encode`: the literal of a string is read as that string, whatever text follows it.
* `bare_eq_encode_iff`: a string between quotes as it is, is its own literal exactly if there is nothing
  to escape in it.
* `read?_bare_iff`: and it is read as that string exactly if it holds no quote, backslash or end of line.
* `encode_selfDelimiting`: so literals are a code, in which no text begins with two of them, and each
  stands on one line.
-/

namespace ProviderCode.Literal

open Json.Quoted (hexDigit? hexDigit?_digitChar)

/-! ### The reader -/

/-- Where the reader of a literal stands. -/
inductive Phase
  | plain
  | escape
  /-- After `\u` and some of its digits, whose value is kept. -/
  | hex (seen value : Nat)

/-- The character that an escape of one letter stands for. -/
def escaped? : Char → Option Char
  | '"' => some '"'
  | '\\' => some '\\'
  | 'n' => some '\n'
  | 'r' => some '\r'
  | 't' => some '\t'
  | _ => none

/-- The character of a code, if it has one. -/
def character? (code : Nat) : Option Char := if code.isValidChar then some (Char.ofNat code) else none

/-- What is read, with one character more before it. -/
def preceded (c : Char) (read : List Char × List Char) : List Char × List Char := (c :: read.1, read.2)

/-- Reads a literal after its opening quote: the characters it stands for, and the text after it. -/
def readContent : Phase → List Char → Option (List Char × List Char)
  | _, [] => none
  | .plain, c :: rest =>
    if c = '"' then some ([], rest)
    else if c = '\\' then readContent .escape rest
    else if c = '\n' then none
    else (readContent .plain rest).map (preceded c)
  | .escape, c :: rest =>
    if c = 'u' then readContent (.hex 0 0) rest
    else (escaped? c).bind fun value => (readContent .plain rest).map (preceded value)
  | .hex seen value, c :: rest =>
    (hexDigit? c).bind fun digit =>
      if seen = 3 then
        (character? (value * 16 + digit)).bind fun value => (readContent .plain rest).map (preceded value)
      else readContent (.hex (seen + 1) (value * 16 + digit)) rest

/-- Reads a literal from the front of a text: the string it stands for, and the text after it. -/
def read? (text : String) : Option (String × String) :=
  match text.toList with
  | '"' :: rest => (readContent .plain rest).map fun read => (String.ofList read.1, String.ofList read.2)
  | _ => none

/-- A string between quotes, as it is. -/
def bare (s : String) : String := "\"" ++ s ++ "\""

/-- A literal is what its characters are written with, between quotes. -/
theorem encode_eq_bare (s : String) : encode s = bare (String.ofList (s.toList.flatMap escape)) := rfl

theorem read?_bare (s after : String) :
    read? (bare s ++ after) = (readContent .plain (s.toList ++ '"' :: after.toList)).map fun read =>
      (String.ofList read.1, String.ofList read.2) := by
  have htext : (bare s ++ after).toList = '"' :: (s.toList ++ '"' :: after.toList) := by
    simp [bare]
  rw [read?, htext]
  rfl

/-! ### Literals are read back -/

theorem character?_toNat (c : Char) : character? c.toNat = some c := by
  have hvalid : c.toNat.isValidChar := c.valid
  rw [character?, if_pos hvalid, Char.ofNat_toNat]

/-- Four digits stand for the character whose code they are. -/
theorem readContent_hexQuad {c : Char} (hc : c.toNat < 65536) (rest : List Char) :
    readContent (.hex 0 0) (hexQuad c.toNat ++ rest) = (readContent .plain rest).map (preceded c) := by
  have hdigit : ∀ n, hexDigit? (Nat.digitChar (n % 16)) = some (n % 16) :=
    fun n => hexDigit?_digitChar _ (Nat.mod_lt _ (by decide))
  have hvalue : (((0 * 16 + c.toNat / 4096 % 16) * 16 + c.toNat / 256 % 16) * 16 +
      c.toNat / 16 % 16) * 16 + c.toNat % 16 = c.toNat := by omega
  simp only [hexQuad, List.map_cons, List.map_nil, List.cons_append, List.nil_append, readContent,
    hdigit, Option.bind_some, Nat.reduceAdd, Nat.reduceEqDiff, if_false, if_true, hvalue,
    character?_toNat]

/-- **One character.**  What is written for a character is read as that character. -/
theorem readContent_escape (c : Char) (rest : List Char) :
    readContent .plain (escape c ++ rest) = (readContent .plain rest).map (preceded c) := by
  unfold escape
  split
  case h_6 hquote hbackslash hline _ _ =>
    by_cases hc : isControl c = true
    · have hcode : c.toNat < 65536 := by
        simp only [isControl, Bool.or_eq_true, Bool.and_eq_true, decide_eq_true_iff] at hc
        omega
      rw [if_pos hc]
      exact readContent_hexQuad hcode rest
    · rw [if_neg hc, List.singleton_append, readContent, if_neg hquote, if_neg hbackslash, if_neg hline]
  all_goals rfl

theorem readContent_escapes (cs rest : List Char) :
    readContent .plain (cs.flatMap escape ++ '"' :: rest) = some (cs, rest) := by
  induction cs with
  | nil => rfl
  | cons c cs ih =>
    rw [List.flatMap_cons, List.append_assoc, readContent_escape, ih]
    rfl

/-- **Reading back.**  The literal of a string is read as that string, whatever text follows it. -/
theorem read?_encode (s after : String) : read? (encode s ++ after) = some (s, after) := by
  rw [encode_eq_bare, read?_bare, String.toList_ofList, readContent_escapes]
  simp only [Option.map_some, String.ofList_toList]

/-! ### What is escaped -/

/-- A character that is not escaped in a literal. -/
def isPlain (c : Char) : Bool := c != '"' && c != '\\' && !isControl c

/-- A character that stands for itself in a literal. -/
def standsForItself (c : Char) : Bool := c != '"' && c != '\\' && c != '\n'

theorem escape_of_isPlain {c : Char} (h : isPlain c = true) : escape c = [c] := by
  simp only [isPlain, Bool.and_eq_true, bne_iff_ne, Bool.not_eq_true'] at h
  obtain ⟨⟨hquote, hbackslash⟩, hcontrol⟩ := h
  unfold escape
  split
  case h_6 => rw [hcontrol, if_neg Bool.false_ne_true]
  case h_1 => exact absurd rfl hquote
  case h_2 => exact absurd rfl hbackslash
  all_goals exact absurd hcontrol (by decide)

/-- All that is escaped becomes longer. -/
theorem length_escape_of_not_isPlain {c : Char} (h : isPlain c = false) : 2 ≤ (escape c).length := by
  unfold escape
  split
  case h_6 hquote hbackslash _ _ _ =>
    have hcontrol : isControl c = true := by
      rw [isPlain, bne_iff_ne.mpr hquote, bne_iff_ne.mpr hbackslash] at h
      simpa using h
    rw [if_pos hcontrol, List.length_cons, List.length_cons]
    omega
  all_goals exact Nat.le_refl 2

theorem escape_ne_nil (c : Char) : escape c ≠ [] := by
  cases hc : isPlain c with
  | true => rw [escape_of_isPlain hc]; exact List.cons_ne_nil c []
  | false =>
    have hlong := length_escape_of_not_isPlain hc
    exact List.ne_nil_of_length_pos (by omega)

theorem escape_eq_singleton_iff {c : Char} : escape c = [c] ↔ isPlain c = true := by
  refine ⟨fun h => ?_, escape_of_isPlain⟩
  by_contra hc
  have hlong := length_escape_of_not_isPlain (Bool.not_eq_true _ ▸ hc)
  rw [h, List.length_singleton] at hlong
  omega

/-- Nothing is escaped exactly if there is nothing to escape. -/
theorem flatMap_escape_eq_iff {cs : List Char} : cs.flatMap escape = cs ↔ cs.all isPlain = true := by
  have hmap : cs.flatMap escape = cs.map id ↔ ∀ c ∈ cs, escape c = [c] :=
    flatMap_eq_map_iff escape_ne_nil
  rw [List.map_id] at hmap
  simp only [hmap, escape_eq_singleton_iff, List.all_eq_true]

/-- **Bare strings.**  A string between quotes as it is, is its literal exactly if no character of it is
to be escaped. -/
theorem bare_eq_encode_iff {s : String} : bare s = encode s ↔ s.toList.all isPlain = true := by
  rw [← flatMap_escape_eq_iff, encode_eq_bare, ← String.toList_inj]
  simp [bare, eq_comm]

/-- What is read is shorter than the text, by a quote at least. -/
theorem length_readContent {text : List Char} : ∀ {phase : Phase} {read : List Char × List Char},
    readContent phase text = some read → read.1.length + read.2.length < text.length := by
  induction text with
  | nil => intro phase read h; cases phase <;> cases h
  | cons c text ih =>
    -- a character that stands for itself, or the last one of an escape
    have hstep : ∀ {value : Char} {read : List Char × List Char},
        (readContent .plain text).map (preceded value) = some read →
          read.1.length + read.2.length < (c :: text).length := by
      intro value read h
      obtain ⟨inner, hinner, rfl⟩ := Option.map_eq_some_iff.mp h
      have hlength := ih hinner
      simp only [preceded, List.length_cons]
      omega
    intro phase read h
    cases phase with
    | plain =>
      rw [readContent] at h
      split at h
      · cases h
        simp
      · split at h
        · exact Nat.lt_succ_of_lt (ih h)
        · split at h
          · cases h
          · exact hstep h
    | escape =>
      rw [readContent] at h
      split at h
      · exact Nat.lt_succ_of_lt (ih h)
      · obtain ⟨value, -, h⟩ := Option.bind_eq_some_iff.mp h
        exact hstep h
    | hex seen value =>
      rw [readContent] at h
      obtain ⟨digit, -, h⟩ := Option.bind_eq_some_iff.mp h
      split at h
      · obtain ⟨value, -, h⟩ := Option.bind_eq_some_iff.mp h
        exact hstep h
      · exact Nat.lt_succ_of_lt (ih h)

/-- Characters are read as they stand exactly if each stands for itself: an escape takes more of them
than it stands for. -/
theorem readContent_bare_iff {cs after : List Char} :
    readContent .plain (cs ++ '"' :: after) = some (cs, after) ↔ cs.all standsForItself = true := by
  induction cs with
  | nil => exact iff_of_true rfl rfl
  | cons c cs ih =>
    rw [List.all_cons, Bool.and_eq_true, ← ih, List.cons_append, readContent]
    split
    case isTrue hquote =>
      subst hquote
      exact iff_of_false (by simp) fun h => Bool.false_ne_true h.1
    case isFalse hquote =>
      split
      case isTrue hbackslash =>
        subst hbackslash
        refine iff_of_false (fun h => ?_) fun h => Bool.false_ne_true h.1
        have hlength := length_readContent h
        simp only [List.length_append, List.length_cons] at hlength
        omega
      case isFalse hbackslash =>
        split
        case isTrue hline =>
          subst hline
          exact iff_of_false (by simp) fun h => Bool.false_ne_true h.1
        case isFalse hline =>
          have hitself : standsForItself c = true := by
            simp [standsForItself, hquote, hbackslash, hline]
          rw [hitself, eq_self, true_and, Option.map_eq_some_iff]
          constructor
          · rintro ⟨inner, hinner, heq⟩
            cases heq
            exact hinner
          · exact fun h => ⟨_, h, rfl⟩

/-- **Reading bare strings.**  A string between quotes is read as that string exactly if every character
stands for itself. -/
theorem read?_bare_iff {s after : String} :
    read? (bare s ++ after) = some (s, after) ↔ s.toList.all standsForItself = true := by
  have hcontent : readContent .plain (s.toList ++ '"' :: after.toList) =
      some (s.toList, after.toList) ↔ s.toList.all standsForItself = true := readContent_bare_iff
  rw [← hcontent, read?_bare, Option.map_eq_some_iff]
  constructor
  · rintro ⟨⟨content, rest⟩, hread, heq⟩
    cases heq
    simpa using hread
  · exact fun h => ⟨_, h, by simp⟩

/-! ### Literals as a code -/

theorem isControl_digitChar : ∀ n < 16, isControl (Nat.digitChar n) = false := by decide

/-- What a character is written with holds no control character. -/
theorem isControl_of_mem_escape {c d : Char} (h : d ∈ escape c) : isControl d = false := by
  unfold escape at h
  split at h
  case h_6 =>
    split at h
    next =>
      have hdigit : ∀ n, isControl (Nat.digitChar (n % 16)) = false := fun n =>
        isControl_digitChar _ (Nat.mod_lt n (by decide))
      simp only [hexQuad, List.map_cons, List.map_nil, List.mem_cons, List.not_mem_nil, or_false] at h
      rcases h with rfl | rfl | rfl | rfl | rfl | rfl
      · rfl
      · rfl
      all_goals exact hdigit _
    next hplain =>
      obtain rfl := List.mem_singleton.mp h
      exact (Bool.not_eq_true _).mp hplain
  all_goals
    simp only [List.mem_cons, List.not_mem_nil, or_false] at h
    rcases h with rfl | rfl <;> rfl

theorem isControl_of_mem_encode {s : String} {c : Char} (h : c ∈ (encode s).toList) :
    isControl c = false := by
  have hquote : isControl '"' = false := rfl
  simp only [encode, String.toList_append, String.toList_ofList, List.mem_append, List.mem_flatMap] at h
  rcases h with (h | ⟨d, -, h⟩) | h
  · rwa [List.mem_singleton.mp h]
  · exact isControl_of_mem_escape h
  · rwa [List.mem_singleton.mp h]

/-- **A self-delimiting code.**  Whatever text follows the literal of a string, reading gives the string
and leaves that text, so a text begins with at most one literal and no two strings have the same one.  A
literal holds no control character, so it stands on one line. -/
theorem encode_selfDelimiting :
    (∀ s after : String, read? (encode s ++ after) = some (s, after)) ∧
    (∀ s : String, (∀ c ∈ (encode s).toList, isControl c = false) ∧ '\n' ∉ (encode s).toList) ∧
    (∀ s t after after' : String, encode s ++ after = encode t ++ after' → s = t ∧ after = after') ∧
    Function.Injective encode := by
  have hstart : ∀ s t after after' : String, encode s ++ after = encode t ++ after' →
      s = t ∧ after = after' := by
    intro s t after after' h
    have hread := congrArg read? h
    rw [read?_encode, read?_encode] at hread
    exact Prod.mk.inj (Option.some.inj hread)
  refine ⟨read?_encode, fun s => ⟨fun c => isControl_of_mem_encode, fun hline => ?_⟩, hstart, ?_⟩
  · cases isControl_of_mem_encode hline
  · intro s t h
    exact (hstart s t "" "" (congrArg (· ++ "") h)).1

/-- A string with all that is escaped, a backslash before a letter and a quote at its end. -/
def escapedText : String := "\\n\n\r\t\x01\u0085u\\\""

/-- The string is read back, although the text after its literal begins with a quote. -/
theorem encode_selfDelimiting_escapedText :
    encode escapedText = "\"\\\\n\\n\\r\\t\\u0001\\u0085u\\\\\\\"\"" ∧
    read? (encode escapedText ++ "\": 1") = some (escapedText, "\": 1") ∧
    (∀ c ∈ (encode escapedText).toList, isControl c = false) ∧
    ∀ t after' : String, encode escapedText ++ "\": 1" = encode t ++ after' →
      escapedText = t ∧ "\": 1" = after' :=
  ⟨by decide +kernel, encode_selfDelimiting.1 escapedText _,
    (encode_selfDelimiting.2.1 escapedText).1, fun t => encode_selfDelimiting.2.2.1 escapedText t _⟩

end ProviderCode.Literal
