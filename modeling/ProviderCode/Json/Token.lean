import ProviderCode.Decimal.Numeral

/-!
# JSON tokens

`Token.scan` cuts a text into tokens. A token that is no token of the grammar is kept as `broken`,
and nothing after it is read. The same characters can be at fault in two ways: a value that is read
is checked in full, whereas a value that is passed over need not have a meaning, so a broken token
says for both what is wrong with it.
-/

namespace ProviderCode.Json

open Decimal (Numeral)

/-- Why a text cannot be read: it breaks the grammar, or it ends too early. -/
inductive Fault
  | malformed
  | truncated
deriving DecidableEq, Repr

inductive Token
  | openArray
  | closeArray
  | openObject
  | closeObject
  | comma
  | colon
  | null
  | bool (b : Bool)
  | number (n : Numeral)
  /-- A string; it has no text if an escape in it names half of a surrogate pair. -/
  | string (text : Option String)
  /-- The first character, the fault if the token is read, and the fault if it is passed over. -/
  | broken (start : Char) (read skipped : Fault)
deriving DecidableEq, Repr

/-- The four characters that may stand between tokens. -/
def isBlank (c : Char) : Bool := c == ' ' || c == '\n' || c == '\t' || c == '\r'

/-! ### Strings -/

namespace Quoted

/-- The value of a hexadecimal digit. -/
def hexDigit? (c : Char) : Option Nat :=
  if '0' ≤ c ∧ c ≤ '9' then some (c.toNat - '0'.toNat)
  else if 'a' ≤ c ∧ c ≤ 'f' then some (c.toNat - 'a'.toNat + 10)
  else if 'A' ≤ c ∧ c ≤ 'F' then some (c.toNat - 'A'.toNat + 10)
  else none

/-- The character that an escape of one letter stands for. -/
def escaped? : Char → Option Char
  | '"' => some '"'
  | '\\' => some '\\'
  | '/' => some '/'
  | 'b' => some '\x08'
  | 'f' => some '\x0c'
  | 'n' => some '\n'
  | 'r' => some '\r'
  | 't' => some '\t'
  | _ => none

def isLead (code : Nat) : Bool := 0xD800 ≤ code && code ≤ 0xDBFF

def isTrail (code : Nat) : Bool := 0xDC00 ≤ code && code ≤ 0xDFFF

/-- The characters that codes stand for, two halves of a pair taken together; nothing if a half
stands alone. -/
def combine : List Nat → Option (List Char)
  | [] => some []
  | code :: rest =>
    if isTrail code then none
    else if isLead code then
      match rest with
      | [] => none
      | next :: rest =>
        if isTrail next then
          (combine rest).map (Char.ofNat (0x10000 + (code - 0xD800) * 0x400 + (next - 0xDC00)) :: ·)
        else none
    else (combine rest).map (Char.ofNat code :: ·)

/-- Where the reader of a string stands. -/
inductive Phase
  | plain
  | escape
  /-- After `\u` and some of its digits, whose value is kept. -/
  | hex (seen value : Nat)

/-- The codes of a string and what follows it, or how far it could be read. -/
inductive Scan
  | closed (codes : List Nat) (rest : List Char)
  | broken (codes : List Nat) (fault : Fault)

/-- Whether fewer than `n` bytes are left. -/
def endsWithin (n : Nat) (cs : List Char) : Bool :=
  cs.foldl (fun bytes c => bytes + c.utf8Size) 0 < n

/-- Reads a string after its opening quote; `codes` are those read so far, last first. -/
def scan (codes : List Nat) : Phase → List Char → Scan
  | _, [] => .broken codes.reverse .truncated
  | .plain, c :: rest =>
    if c = '"' then .closed codes.reverse rest
    else if c = '\\' then scan codes .escape rest
    else if c < ' ' then .broken codes.reverse .malformed
    else scan (c.toNat :: codes) .plain rest
  | .escape, c :: rest =>
    if c = 'u' then scan codes (.hex 0 0) rest
    else
      match escaped? c with
      | some d => scan (d.toNat :: codes) .plain rest
      | none => .broken codes.reverse .malformed
  | .hex seen value, c :: rest =>
    match hexDigit? c with
    | some d =>
      if seen = 3 then scan ((value * 16 + d) :: codes) .plain rest
      else scan codes (.hex (seen + 1) (value * 16 + d)) rest
    | none =>
      .broken codes.reverse (if endsWithin (4 - seen) (c :: rest) then .truncated else .malformed)

/-- A first half at the end may still get its second one. -/
def dropOpenLead (codes : List Nat) : List Nat :=
  match codes.getLast? with
  | some code => if isLead code then codes.dropLast else codes
  | none => codes

theorem scan_closed_length {cs : List Char} : ∀ {codes phase out rest},
    scan codes phase cs = .closed out rest → rest.length < cs.length := by
  induction cs with
  | nil => intro codes phase out rest h; cases phase <;> simp [scan] at h
  | cons c cs ih =>
    intro codes phase out rest h
    have step : ∀ {codes phase}, scan codes phase cs = .closed out rest →
        rest.length < (c :: cs).length := fun h => Nat.lt_succ_of_lt (ih h)
    cases phase <;> simp only [scan] at h
    · split at h
      · cases h; simp
      · split at h
        · exact step h
        · split at h
          · cases h
          · exact step h
    · split at h
      · exact step h
      · split at h
        · exact step h
        · cases h
    · split at h
      · split at h <;> exact step h
      · cases h

end Quoted

/-! ### Numbers and words -/

def isDigit (c : Char) : Bool := '0' ≤ c && c ≤ '9'

/-- The values of the digits a text starts with. -/
def leadingDigits (cs : List Char) : List Nat :=
  (cs.takeWhile isDigit).map fun c => c.toNat - '0'.toNat

/-- The fault where a digit is due: the end of the text counts only if the number is read. -/
def digitDue (cs : List Char) : Fault :=
  match cs with
  | [] => .truncated
  | _ :: _ => .malformed

/-- The digits that are due, and what follows them. -/
def takeDigits (cs : List Char) : Except Fault (List Nat × List Char) :=
  match leadingDigits cs with
  | [] => .error (digitDue cs)
  | digits => .ok (digits, cs.dropWhile isDigit)

/-- The digits after a point, if there is one. -/
def takeFraction (cs : List Char) : Except Fault (List Nat × List Char) :=
  match cs with
  | '.' :: cs => takeDigits cs
  | cs => .ok ([], cs)

/-- Whether a minus sign stands in front, and what follows the sign. -/
def takeSign (cs : List Char) : Bool × List Char :=
  match cs with
  | '+' :: cs => (false, cs)
  | '-' :: cs => (true, cs)
  | cs => (false, cs)

/-- The exponent, if there is one. -/
def takeExponent (cs : List Char) : Except Fault (Option (Bool × List Nat) × List Char) :=
  match cs with
  | [] => .ok (none, [])
  | c :: cs =>
    if c = 'e' || c = 'E' then do
      let (digits, rest) ← takeDigits (takeSign cs).2
      return (some ((takeSign cs).1, digits), rest)
    else .ok (none, c :: cs)

/-- A number after its sign. No other digit may follow a zero at the front. -/
def takeNumber (negative : Bool) (cs : List Char) : Except Fault (Numeral × List Char) := do
  let (whole, cs) ← takeDigits cs
  if whole.head? == some 0 && whole.length != 1 then throw .malformed
  let (fraction, cs) ← takeFraction cs
  let (exponent, cs) ← takeExponent cs
  return ({ negative, whole, fraction, exponent }, cs)

/-- Matches the rest of a word; nothing may be missing but at the end of the text. -/
def takeWord : List Char → List Char → Except Fault (List Char)
  | [], cs => .ok cs
  | _ :: _, [] => .error .truncated
  | w :: word, c :: cs => if w = c then takeWord word cs else .error .malformed

/-! ### Texts -/

namespace Token

/-- A word of the grammar whose first character `c` has been taken. -/
def word (c : Char) (tail : List Char) (token : Token) (cs : List Char) : Token × List Char :=
  match takeWord tail cs with
  | .ok rest => (token, rest)
  | .error fault => (.broken c fault fault, [])

/-- A number that starts with `c`; `cs` are its characters after the sign. -/
def numeral (c : Char) (negative : Bool) (cs : List Char) : Token × List Char :=
  match takeNumber negative cs with
  | .ok (n, rest) => (.number n, rest)
  | .error fault => (.broken c fault .malformed, [])

/-- A string whose opening quote has been taken. -/
def quoted (cs : List Char) : Token × List Char :=
  match Quoted.scan [] .plain cs with
  | .closed codes rest => (.string ((Quoted.combine codes).map String.ofList), rest)
  | .broken codes fault =>
    let half := (Quoted.combine (Quoted.dropOpenLead codes)).isNone
    (.broken '"' (if half then .malformed else fault) fault, [])

/-- The token that starts with `c`, and what follows it. -/
def next (c : Char) (rest : List Char) : Token × List Char :=
  match c with
  | '[' => (.openArray, rest)
  | ']' => (.closeArray, rest)
  | '\x7b' => (.openObject, rest)
  | '\x7d' => (.closeObject, rest)
  | ',' => (.comma, rest)
  | ':' => (.colon, rest)
  | 'n' => word 'n' ['u', 'l', 'l'] .null rest
  | 't' => word 't' ['r', 'u', 'e'] (.bool true) rest
  | 'f' => word 'f' ['a', 'l', 's', 'e'] (.bool false) rest
  | '"' => quoted rest
  | '-' => numeral '-' true rest
  | c => if isDigit c then numeral c false (c :: rest) else (.broken c .malformed .malformed, [])

end Token

/-! ### Every token takes something -/

theorem takeDigits_length {cs rest : List Char} {digits : List Nat}
    (h : takeDigits cs = .ok (digits, rest)) : rest.length < cs.length := by
  unfold takeDigits at h
  split at h
  · cases h
  · next hd =>
    cases h
    cases cs with
    | nil => simp [leadingDigits] at hd
    | cons c cs =>
      by_cases hc : isDigit c
      · rw [List.dropWhile_cons_of_pos hc]
        exact Nat.lt_succ_of_le (List.dropWhile_sublist _).length_le
      · simp [leadingDigits, hc] at hd

theorem takeFraction_length {cs rest : List Char} {digits : List Nat}
    (h : takeFraction cs = .ok (digits, rest)) : rest.length ≤ cs.length := by
  unfold takeFraction at h
  split at h
  · exact Nat.le_succ_of_le (Nat.le_of_lt (takeDigits_length h))
  · cases h; exact Nat.le_refl _

theorem takeSign_length (cs : List Char) : (takeSign cs).2.length ≤ cs.length := by
  unfold takeSign
  split <;> simp

theorem takeExponent_length {cs rest : List Char} {exponent : Option (Bool × List Nat)}
    (h : takeExponent cs = .ok (exponent, rest)) : rest.length ≤ cs.length := by
  unfold takeExponent at h
  split at h
  · cases h; exact Nat.le_refl _
  · next c cs =>
    split at h
    · cases hd : takeDigits (takeSign cs).2 with
      | error f => simp [hd, bind, Except.bind] at h
      | ok p =>
        simp only [hd, bind, Except.bind, pure, Except.pure] at h
        cases h
        have := takeDigits_length hd
        have := takeSign_length cs
        simp only [List.length_cons]
        omega
    · cases h; exact Nat.le_refl _

theorem takeNumber_length {negative : Bool} {cs rest : List Char} {n : Numeral}
    (h : takeNumber negative cs = .ok (n, rest)) : rest.length < cs.length := by
  unfold takeNumber at h
  cases hw : takeDigits cs with
  | error f => simp [hw, bind, Except.bind] at h
  | ok w =>
    simp only [hw, bind, Except.bind, throw, throwThe, MonadExceptOf.throw, pure, Except.pure] at h
    split at h
    · cases h
    · cases hf : takeFraction w.2 with
      | error f => simp [hf] at h
      | ok f =>
        cases he : takeExponent f.2 with
        | error e => simp [hf, he] at h
        | ok e =>
          simp only [hf, he] at h
          cases h
          have := takeDigits_length hw
          have := takeFraction_length hf
          have := takeExponent_length he
          omega

theorem takeWord_length {cs rest : List Char} : ∀ {word},
    takeWord word cs = .ok rest → rest.length ≤ cs.length := by
  induction cs with
  | nil => intro word h; cases word <;> simp_all [takeWord]
  | cons c cs ih =>
    intro word h
    cases word with
    | nil => cases h; exact Nat.le_refl _
    | cons w word =>
      simp only [takeWord] at h
      split at h
      · exact Nat.le_succ_of_le (ih h)
      · cases h

namespace Token

theorem word_length (c : Char) (tail : List Char) (token : Token) (cs : List Char) :
    (word c tail token cs).2.length ≤ cs.length := by
  unfold word
  split
  · next h => exact takeWord_length h
  · exact Nat.zero_le _

theorem numeral_length (c : Char) (negative : Bool) (cs : List Char) :
    (numeral c negative cs).2.length ≤ cs.length - 1 := by
  unfold numeral
  split
  · next h => exact Nat.le_sub_one_of_lt (takeNumber_length h)
  · exact Nat.zero_le _

theorem quoted_length (cs : List Char) : (quoted cs).2.length ≤ cs.length := by
  unfold quoted
  split
  · next h => exact Nat.le_of_lt (Quoted.scan_closed_length h)
  · exact Nat.zero_le _

theorem next_length (c : Char) (rest : List Char) : (next c rest).2.length ≤ rest.length := by
  unfold next
  split
  case h_7 | h_8 | h_9 => exact word_length ..
  case h_10 => exact quoted_length rest
  case h_11 => exact Nat.le_trans (numeral_length ..) (Nat.sub_le ..)
  case h_12 =>
    split
    · exact numeral_length ..
    · exact Nat.zero_le _
  all_goals exact Nat.le_refl _

/-- The tokens of a text. -/
def scan : List Char → List Token
  | [] => []
  | c :: rest =>
    if isBlank c then scan rest
    else
      let taken := next c rest
      taken.1 :: scan taken.2
termination_by cs => cs.length
decreasing_by
  · exact Nat.lt_succ_self _
  · exact Nat.lt_succ_of_le (next_length c rest)

end Token

end ProviderCode.Json
