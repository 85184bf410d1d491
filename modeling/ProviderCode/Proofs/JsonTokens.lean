import ProviderCode.Proofs.JsonNumbers

/-!
# Tokens of a written value

The compact text of a value is cut into the tokens of the value, whatever follows the text. Every
string is read back from its quotes, since each character is written in a form that stands for that
character only. A floating point number is written in digits that the number reader may not take
back exactly or at all, so `Value.Readable` asks for its text to be one number.
-/

namespace ProviderCode.Json

open Decimal (Numeral)

/-! ### Strings -/

namespace Quoted

theorem hexDigit?_digitChar : ∀ d < 16, hexDigit? (Nat.digitChar d) = some d := by decide

/-- The four digits of a small code. -/
theorem scan_hexPair {n : Nat} (hn : n < 32) (codes : List Nat) (rest : List Char) :
    scan codes (.hex 0 0) ('0' :: '0' :: (hexPair n ++ rest)) = scan (n :: codes) .plain rest := by
  have hzero : hexDigit? '0' = some 0 := by decide
  have hhigh : hexDigit? (Nat.digitChar (n / 16)) = some (n / 16) :=
    hexDigit?_digitChar _ (by omega)
  have hlow : hexDigit? (Nat.digitChar (n % 16)) = some (n % 16) :=
    hexDigit?_digitChar _ (by omega)
  have hvalue : n / 16 * 16 + n % 16 = n := by omega
  simp [scan, hexPair, hzero, hhigh, hlow, hvalue]

/-- What is written for a character is read as that character. -/
theorem scan_escape (c : Char) (codes : List Nat) (rest : List Char) :
    scan codes .plain (escape c ++ rest) = scan (c.toNat :: codes) .plain rest := by
  unfold escape
  split
  case h_8 hquote hbackslash _ _ _ _ _ =>
    by_cases hc : c < ' '
    · have hcode : c.toNat < 32 := hc
      rw [if_pos hc]
      exact scan_hexPair hcode codes rest
    · rw [if_neg hc, List.singleton_append, scan, if_neg hquote, if_neg hbackslash, if_neg hc]
  all_goals rfl

theorem scan_escapes : ∀ (cs : List Char) (codes : List Nat) (rest : List Char),
    scan codes .plain (cs.flatMap escape ++ '"' :: rest) =
      .closed (codes.reverse ++ cs.map Char.toNat) rest
  | [], codes, rest => by simp [scan]
  | c :: cs, codes, rest => by
    rw [List.flatMap_cons, List.append_assoc, scan_escape, scan_escapes cs]
    simp

/-- No character is half of a surrogate pair. -/
theorem combine_codes : ∀ cs : List Char, combine (cs.map Char.toNat) = some cs
  | [] => rfl
  | c :: cs => by
    have hvalid : c.toNat < 0xD800 ∨ 0xDFFF < c.toNat ∧ c.toNat < 0x110000 := c.valid
    have htrail : isTrail c.toNat = false := by
      rw [isTrail, Bool.and_eq_false_iff, decide_eq_false_iff_not, decide_eq_false_iff_not]
      omega
    have hlead : isLead c.toNat = false := by
      rw [isLead, Bool.and_eq_false_iff, decide_eq_false_iff_not, decide_eq_false_iff_not]
      omega
    rw [List.map_cons, combine.eq_def]
    simp [htrail, hlead, combine_codes cs, Char.ofNat_toNat]

end Quoted

namespace Token

theorem quoted_escapes (s : String) (rest : List Char) :
    quoted (s.toList.flatMap escape ++ '"' :: rest) = (.string (some s), rest) := by
  rw [quoted, Quoted.scan_escapes]
  simp [Quoted.combine_codes]

/-! ### Pieces of a text -/

theorem scan_cons {c : Char} {cs after : List Char} {token : Token} (hc : isBlank c = false)
    (hnext : next c cs = (token, after)) : scan (c :: cs) = token :: scan after := by
  rw [scan, if_neg (by rw [hc]; exact Bool.false_ne_true), hnext]

theorem scan_openArray (cs : List Char) : scan ('[' :: cs) = .openArray :: scan cs :=
  scan_cons rfl rfl

theorem scan_closeArray (cs : List Char) : scan (']' :: cs) = .closeArray :: scan cs :=
  scan_cons rfl rfl

theorem scan_openObject (cs : List Char) : scan ('\x7b' :: cs) = .openObject :: scan cs :=
  scan_cons rfl rfl

theorem scan_closeObject (cs : List Char) : scan ('\x7d' :: cs) = .closeObject :: scan cs :=
  scan_cons rfl rfl

theorem scan_comma (cs : List Char) : scan (',' :: cs) = .comma :: scan cs := scan_cons rfl rfl

theorem scan_colon (cs : List Char) : scan (':' :: cs) = .colon :: scan cs := scan_cons rfl rfl

theorem scan_quote (s : String) (rest : List Char) :
    scan ((quote s).toList ++ rest) = .string (some s) :: scan rest := by
  have htext : (quote s).toList ++ rest = '"' :: (s.toList.flatMap escape ++ '"' :: rest) := by
    simp [quote]
  rw [htext]
  exact scan_cons rfl (quoted_escapes s rest)

end Token

/-! ### Values -/

namespace Value

mutual

/-- The tokens of the text of a value. -/
def tokens : Value → List Token
  | .null => [.null]
  | .bool b => [.bool b]
  | .integer i => [.number (integerNumeral i)]
  | .float x => Token.scan (floatText x).toList
  | .string s => [.string (some s)]
  | .array [] => [.openArray, .closeArray]
  | .array (item :: items) => .openArray :: (item.tokens ++ (itemTokens items ++ [.closeArray]))
  | .object [] => [.openObject, .closeObject]
  | .object ((key, value) :: members) =>
    .openObject :: .string (some key) :: .colon ::
      (value.tokens ++ (memberTokens members ++ [.closeObject]))
termination_by structural value => value

/-- The tokens of the items after the first. -/
def itemTokens : List Value → List Token
  | [] => []
  | item :: items => .comma :: (item.tokens ++ itemTokens items)
termination_by structural items => items

/-- The tokens of the members after the first. -/
def memberTokens : List (String × Value) → List Token
  | [] => []
  | (key, value) :: members =>
    .comma :: .string (some key) :: .colon :: (value.tokens ++ memberTokens members)
termination_by structural members => members

end

mutual

/-- Whether every number is in the range of the reader of numbers. -/
def Readable : Value → Prop
  | .null | .bool _ | .string _ => True
  | .integer i => (integerNumeral i).amount?.isSome
  | .float x => ∃ n : Numeral, Token.scan (floatText x).toList = [.number n] ∧ n.amount?.isSome
  | .array items => ItemsReadable items
  | .object members => MembersReadable members
termination_by structural value => value

def ItemsReadable : List Value → Prop
  | [] => True
  | item :: items => item.Readable ∧ ItemsReadable items
termination_by structural items => items

def MembersReadable : List (String × Value) → Prop
  | [] => True
  | (_, value) :: members => value.Readable ∧ MembersReadable members
termination_by structural members => members

end

theorem itemsReadable_iff : ∀ {items : List Value},
    ItemsReadable items ↔ ∀ item ∈ items, item.Readable
  | [] => iff_of_true trivial fun _ h => absurd h List.not_mem_nil
  | _ :: _ => by rw [ItemsReadable, List.forall_mem_cons, itemsReadable_iff]

theorem membersReadable_iff : ∀ {members : List (String × Value)},
    MembersReadable members ↔ ∀ member ∈ members, member.2.Readable
  | [] => iff_of_true trivial fun _ h => absurd h List.not_mem_nil
  | (_, _) :: _ => by rw [MembersReadable, List.forall_mem_cons, membersReadable_iff]

theorem endsNumber_items {rest : List Char} (hrest : endsNumber rest) :
    ∀ items : List Value, endsNumber ((compactItems items).toList ++ rest)
  | [] => hrest
  | item :: items => by
    rw [compactItems]
    simp [endsNumber, isDigit]

theorem endsNumber_members {rest : List Char} (hrest : endsNumber rest) :
    ∀ members : List (String × Value), endsNumber ((compactMembers members).toList ++ rest)
  | [] => hrest
  | (key, value) :: members => by
    rw [compactMembers]
    simp [endsNumber, isDigit]

mutual

/-- The text of a value has the tokens of the value, before any text but the rest of a number. -/
theorem scan_compact : ∀ {value : Value}, value.Readable → ∀ {rest : List Char},
    endsNumber rest → Token.scan (value.compact.toList ++ rest) = value.tokens ++ Token.scan rest
  | .null, _, _, _ => Token.scan_cons rfl rfl
  | .bool true, _, _, _ => Token.scan_cons rfl rfl
  | .bool false, _, _, _ => Token.scan_cons rfl rfl
  | .integer i, _, rest, hrest => Token.scan_number_append hrest (scan_repr i)
  | .float x, hvalue, rest, hrest => by
    obtain ⟨n, hn, -⟩ := hvalue
    rw [compact, tokens, hn]
    exact Token.scan_number_append hrest hn
  | .string s, _, rest, _ => Token.scan_quote s rest
  | .array [], _, _, _ =>
    (Token.scan_cons rfl rfl).trans (congrArg _ (Token.scan_cons rfl rfl))
  | .array (item :: items), ⟨hitem, hitems⟩, rest, _ => by
    have htext : (compact (.array (item :: items))).toList ++ rest =
        '[' :: (item.compact.toList ++ ((compactItems items).toList ++ ']' :: rest)) := by
      rw [compact]
      simp
    have hclose : endsNumber (']' :: rest) := rfl
    rw [htext, Token.scan_openArray, scan_compact hitem (endsNumber_items hclose items),
      scan_compactItems hitems hclose, Token.scan_closeArray, tokens]
    simp
  | .object [], _, _, _ =>
    (Token.scan_cons rfl rfl).trans (congrArg _ (Token.scan_cons rfl rfl))
  | .object ((key, value) :: members), ⟨hvalue, hmembers⟩, rest, _ => by
    have htext : (compact (.object ((key, value) :: members))).toList ++ rest =
        '\x7b' :: ((quote key).toList ++ ':' :: (value.compact.toList ++
          ((compactMembers members).toList ++ '\x7d' :: rest))) := by
      rw [compact]
      simp
    have hclose : endsNumber ('\x7d' :: rest) := rfl
    rw [htext, Token.scan_openObject, Token.scan_quote, Token.scan_colon,
      scan_compact hvalue (endsNumber_members hclose members),
      scan_compactMembers hmembers hclose, Token.scan_closeObject, tokens]
    simp
termination_by structural value => value

theorem scan_compactItems : ∀ {items : List Value}, ItemsReadable items → ∀ {rest : List Char},
    endsNumber rest →
      Token.scan ((compactItems items).toList ++ rest) = itemTokens items ++ Token.scan rest
  | [], _, _, _ => rfl
  | item :: items, ⟨hitem, hitems⟩, rest, hrest => by
    have htext : (compactItems (item :: items)).toList ++ rest =
        ',' :: (item.compact.toList ++ ((compactItems items).toList ++ rest)) := by
      rw [compactItems]
      simp
    rw [htext, Token.scan_comma, scan_compact hitem (endsNumber_items hrest items),
      scan_compactItems hitems hrest, itemTokens]
    simp
termination_by structural items => items

theorem scan_compactMembers : ∀ {members : List (String × Value)}, MembersReadable members →
    ∀ {rest : List Char}, endsNumber rest →
      Token.scan ((compactMembers members).toList ++ rest) = memberTokens members ++ Token.scan rest
  | [], _, _, _ => rfl
  | (key, value) :: members, ⟨hvalue, hmembers⟩, rest, hrest => by
    have htext : (compactMembers ((key, value) :: members)).toList ++ rest =
        ',' :: ((quote key).toList ++ ':' :: (value.compact.toList ++
          ((compactMembers members).toList ++ rest))) := by
      rw [compactMembers]
      simp
    rw [htext, Token.scan_comma, Token.scan_quote, Token.scan_colon,
      scan_compact hvalue (endsNumber_members hrest members), scan_compactMembers hmembers hrest,
      memberTokens]
    simp
termination_by structural members => members

end

end Value

end ProviderCode.Json
