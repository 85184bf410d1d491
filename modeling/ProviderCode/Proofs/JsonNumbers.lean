import Mathlib.Data.List.TakeWhile
import ProviderCode.Json.Value
import ProviderCode.Proofs.Results

/-!
# Numbers in a text

A number that is all of one text is the same number where that text stands before something that
cannot continue it. The text of an integer is such a number, and it stands for that integer.
-/

namespace ProviderCode.Json

open Decimal (Amount Numeral)

/-- Whether what comes first cannot continue a number. -/
def endsNumber : List Char → Bool
  | [] => true
  | c :: _ => !isDigit c && c != '.' && c != 'e' && c != 'E'

theorem endsNumber_cons {c : Char} {cs : List Char} (h : endsNumber (c :: cs)) :
    isDigit c = false ∧ c ≠ '.' ∧ c ≠ 'e' ∧ c ≠ 'E' := by
  simpa [endsNumber, and_assoc] using h

/-! ### A number before other text -/

variable {cs after rest : List Char}

theorem takeWhile_digits_append (hrest : endsNumber rest) :
    ∀ cs : List Char, (cs ++ rest).takeWhile isDigit = cs.takeWhile isDigit
  | [] => by
    cases rest with
    | nil => rfl
    | cons c rest => simp [(endsNumber_cons hrest).1]
  | c :: cs => by
    by_cases hc : isDigit c
    · simp [hc, takeWhile_digits_append hrest cs]
    · simp [hc]

theorem dropWhile_digits_append (hrest : endsNumber rest) :
    ∀ cs : List Char, (cs ++ rest).dropWhile isDigit = cs.dropWhile isDigit ++ rest
  | [] => by
    cases rest with
    | nil => rfl
    | cons c rest => simp [(endsNumber_cons hrest).1]
  | c :: cs => by
    by_cases hc : isDigit c
    · simp [hc, dropWhile_digits_append hrest cs]
    · simp [hc]

theorem takeDigits_append {digits : List Nat} (h : takeDigits cs = .ok (digits, after))
    (hrest : endsNumber rest) : takeDigits (cs ++ rest) = .ok (digits, after ++ rest) := by
  have hdigits : leadingDigits (cs ++ rest) = leadingDigits cs := by
    rw [leadingDigits, leadingDigits, takeWhile_digits_append hrest]
  unfold takeDigits at h ⊢
  rw [hdigits, dropWhile_digits_append hrest]
  split at h
  · cases h
  · cases h
    rfl

theorem takeFraction_of_ne {c : Char} (hc : c ≠ '.') (cs : List Char) :
    takeFraction (c :: cs) = .ok ([], c :: cs) := by
  unfold takeFraction
  split
  · next heq => exact absurd (List.cons.inj heq).1 hc
  · rfl

theorem takeFraction_append {digits : List Nat} (h : takeFraction cs = .ok (digits, after))
    (hrest : endsNumber rest) : takeFraction (cs ++ rest) = .ok (digits, after ++ rest) := by
  cases cs with
  | nil =>
    cases h
    cases rest with
    | nil => rfl
    | cons c rest => exact takeFraction_of_ne (endsNumber_cons hrest).2.1 rest
  | cons c cs =>
    by_cases hc : c = '.'
    · subst hc
      exact takeDigits_append h hrest
    · rw [takeFraction_of_ne hc] at h
      cases h
      exact takeFraction_of_ne hc _

theorem takeSign_append (hcs : cs ≠ []) :
    takeSign (cs ++ rest) = ((takeSign cs).1, (takeSign cs).2 ++ rest) := by
  cases cs with
  | nil => exact absurd rfl hcs
  | cons c cs =>
    by_cases hplus : c = '+'
    · subst hplus
      rfl
    · by_cases hminus : c = '-'
      · subst hminus
        rfl
      · simp [takeSign, hplus, hminus]

theorem takeExponent_append {exponent : Option (Bool × List Nat)}
    (h : takeExponent cs = .ok (exponent, after)) (hrest : endsNumber rest) :
    takeExponent (cs ++ rest) = .ok (exponent, after ++ rest) := by
  cases cs with
  | nil =>
    cases h
    cases rest with
    | nil => rfl
    | cons c rest =>
      obtain ⟨-, -, he, hE⟩ := endsNumber_cons hrest
      simp [takeExponent, he, hE]
  | cons c cs =>
    simp only [takeExponent, List.cons_append] at h ⊢
    split at h
    · next hc =>
      rw [if_pos hc]
      obtain ⟨⟨digits, left⟩, hdigits, hresult⟩ := bind_eq_ok.mp h
      cases hresult
      -- Digits are due after the sign, so something stands after the `e`.
      have hcs : cs ≠ [] := by
        rintro rfl
        cases hdigits
      rw [takeSign_append hcs, takeDigits_append hdigits hrest]
      rfl
    · next hc =>
      rw [if_neg hc]
      cases h
      rfl

theorem takeNumber_append {negative : Bool} {n : Numeral}
    (h : takeNumber negative cs = .ok (n, after)) (hrest : endsNumber rest) :
    takeNumber negative (cs ++ rest) = .ok (n, after ++ rest) := by
  unfold takeNumber at h ⊢
  obtain ⟨⟨whole, cs₁⟩, hwhole, h⟩ := bind_eq_ok.mp h
  refine bind_eq_ok.mpr ⟨_, takeDigits_append hwhole hrest, ?_⟩
  dsimp only at h ⊢
  by_cases hzero : (whole.head? == some 0 && whole.length != 1) = true
  · rw [if_pos hzero] at h
    cases h
  · rw [if_neg hzero] at h ⊢
    obtain ⟨⟨fraction, cs₂⟩, hfraction, h⟩ := bind_eq_ok.mp h
    obtain ⟨⟨exponent, cs₃⟩, hexponent, h⟩ := bind_eq_ok.mp h
    cases h
    exact bind_eq_ok.mpr ⟨_, takeFraction_append hfraction hrest,
      bind_eq_ok.mpr ⟨_, takeExponent_append hexponent hrest, rfl⟩⟩

/-! ### The number of a text -/

namespace Token

theorem numeral_append {c : Char} {negative : Bool} {n : Numeral}
    (h : numeral c negative cs = (.number n, after)) (hrest : endsNumber rest) :
    numeral c negative (cs ++ rest) = (.number n, after ++ rest) := by
  unfold numeral at h ⊢
  split at h
  · next hnumber =>
    cases h
    rw [takeNumber_append hnumber hrest]
  · cases h

/-- A token that starts with a digit is a number. -/
theorem next_of_isDigit {c : Char} (hc : isDigit c) (cs : List Char) :
    next c cs = numeral c false (c :: cs) := by
  unfold next
  split
  case h_12 => rw [if_pos hc]
  all_goals exact absurd hc (by decide)

/-- No token but those that start with a sign or a digit is a number. -/
theorem isDigit_of_next {c : Char} {n : Numeral} (h : next c cs = (.number n, after)) :
    c = '-' ∨ isDigit c := by
  by_cases hc : isDigit c
  · exact .inr hc
  · unfold next at h
    split at h
    case h_11 => exact .inl rfl
    case h_12 =>
      rw [if_neg hc] at h
      cases h
    case h_10 =>
      unfold quoted at h
      split at h <;> cases h
    case h_7 | h_8 | h_9 =>
      unfold word at h
      split at h <;> cases h
    all_goals cases h

theorem next_append {c : Char} {n : Numeral} (h : next c cs = (.number n, after))
    (hrest : endsNumber rest) : next c (cs ++ rest) = (.number n, after ++ rest) := by
  rcases isDigit_of_next h with rfl | hc
  · exact numeral_append h hrest
  · rw [next_of_isDigit hc] at h ⊢
    exact numeral_append h hrest

theorem scan_nil : scan [] = [] := by rw [scan.eq_def]

/-- What holds no token can be left out before other text. -/
theorem scan_append_of_nil : ∀ {cs : List Char}, scan cs = [] → scan (cs ++ rest) = scan rest
  | [], _ => rfl
  | c :: cs, h => by
    by_cases hc : isBlank c
    · rw [scan, if_pos hc] at h
      rw [List.cons_append, scan, if_pos hc, scan_append_of_nil h]
    · rw [scan, if_neg hc] at h
      cases h

/-- A text that is one number is that number before other text too. -/
theorem scan_number_append {n : Numeral} (hrest : endsNumber rest) : ∀ {cs : List Char},
    scan cs = [.number n] → scan (cs ++ rest) = .number n :: scan rest
  | [], h => by
    rw [scan] at h
    cases h
  | c :: cs, h => by
    rw [scan] at h
    rw [List.cons_append, scan]
    by_cases hc : isBlank c
    · rw [if_pos hc] at h ⊢
      exact scan_number_append hrest h
    · rw [if_neg hc] at h ⊢
      obtain ⟨htoken, hafter⟩ := List.cons.inj h
      have hnext : next c cs = (.number n, (next c cs).2) := Prod.ext htoken rfl
      rw [next_append hnext hrest]
      exact congrArg _ (scan_append_of_nil hafter)

end Token

/-! ### Integers -/

/-- The values of the decimal digits of a number. -/
def decimals (n : Nat) : List Nat := (Nat.toDigits 10 n).map fun c => c.toNat - '0'.toNat

theorem isDigit_of_mem_toDigits {n : Nat} {c : Char} (hc : c ∈ Nat.toDigits 10 n) :
    isDigit c = true := by
  have h : c.isDigit = true := Nat.isDigit_of_mem_toDigits (by decide) (by decide) hc
  exact h

theorem takeDigits_toDigits (n : Nat) : takeDigits (Nat.toDigits 10 n) = .ok (decimals n, []) := by
  have hall : leadingDigits (Nat.toDigits 10 n) = decimals n := by
    rw [leadingDigits, List.takeWhile_eq_self_iff.mpr fun _ hc => isDigit_of_mem_toDigits hc]
    rfl
  have hnone : (Nat.toDigits 10 n).dropWhile isDigit = [] :=
    List.dropWhile_eq_nil_iff.mpr fun _ hc => isDigit_of_mem_toDigits hc
  unfold takeDigits
  rw [hall, hnone]
  split
  · next h => exact absurd (List.map_eq_nil_iff.mp h) Nat.toDigits_ne_nil
  · rfl

/-- Only the number zero starts with a zero. -/
theorem head?_toDigits {n : Nat} (hn : 0 < n) : (Nat.toDigits 10 n).head? ≠ some '0' := by
  induction n using Nat.strongRecOn with
  | _ n ih =>
    by_cases hlt : n < 10
    · rw [Nat.toDigits_of_lt_base hlt]
      intro h
      have hcode : (Nat.digitChar n).toNat = '0'.toNat :=
        congrArg Char.toNat (Option.some.inj h)
      rw [Nat.toNat_digitChar_of_lt_ten hlt] at hcode
      have : '0'.toNat = 48 := rfl
      omega
    · rw [Nat.toDigits_of_base_le (by decide) (Nat.le_of_not_lt hlt),
        List.head?_append_of_ne_nil _ Nat.toDigits_ne_nil]
      exact ih (n / 10) (by omega) (by omega)

theorem head?_decimals {n : Nat} (hn : 0 < n) : (decimals n).head? ≠ some 0 := by
  intro h
  rw [decimals, List.head?_map, Option.map_eq_some_iff] at h
  obtain ⟨c, hhead, hc⟩ := h
  have hdigit : isDigit c = true := isDigit_of_mem_toDigits (List.mem_of_head? hhead)
  have hle : '0'.toNat ≤ c.toNat := (of_decide_eq_true (Bool.and_eq_true_iff.mp hdigit).1 : '0' ≤ c)
  have hcode : c = '0' := Char.toNat_inj.mp (Nat.le_antisymm (Nat.sub_eq_zero_iff_le.mp hc) hle)
  rw [hcode] at hhead
  exact head?_toDigits hn hhead

theorem takeNumber_toDigits (negative : Bool) (n : Nat) :
    takeNumber negative (Nat.toDigits 10 n) = .ok ({ negative, whole := decimals n }, []) := by
  have hzero : ¬ ((decimals n).head? == some 0 && (decimals n).length != 1) = true := by
    rcases Nat.eq_zero_or_pos n with rfl | hn
    · decide
    · simp [head?_decimals hn]
  unfold takeNumber
  refine bind_eq_ok.mpr ⟨_, takeDigits_toDigits n, ?_⟩
  dsimp only
  rw [if_neg hzero]
  rfl

theorem le_foldl_digits : ∀ (digits : List Nat) (head : Nat),
    head ≤ digits.foldl (fun n d => n * 10 + d) head
  | [], _ => Nat.le_refl _
  | d :: digits, head => by
    have h : head * 10 + d ≤ digits.foldl (fun n d => n * 10 + d) (head * 10 + d) :=
      le_foldl_digits digits _
    rw [List.foldl_cons]
    omega

/-- Digits of a number in range are all taken. -/
theorem accumulate_eq_foldl : ∀ {digits : List Nat} {head : Nat},
    digits.foldl (fun n d => n * 10 + d) head ≤ Numeral.maxSignificand →
      Numeral.accumulate head digits = (digits.foldl (fun n d => n * 10 + d) head, [])
  | [], _, _ => rfl
  | d :: digits, head, h => by
    have hhead : head * 10 + d ≤ Numeral.maxSignificand :=
      Nat.le_trans (le_foldl_digits digits _) h
    rw [Numeral.accumulate, if_pos hhead]
    exact accumulate_eq_foldl h

theorem accumulate_decimals {n : Nat} (hn : n ≤ Numeral.maxSignificand) :
    Numeral.accumulate 0 (decimals n) = (n, []) := by
  have hvalue : (decimals n).foldl (fun n d => n * 10 + d) 0 = n := by
    have h := Nat.ofDigitChars_toDigits (b := 10) (n := n) (by decide) (by decide)
    simpa [decimals, List.foldl_map, Nat.ofDigitChars, Nat.mul_comm] using h
  rw [accumulate_eq_foldl (by rwa [hvalue]), hvalue]

/-- The numeral that is the text of an integer. -/
def integerNumeral : Int → Numeral
  | .ofNat n => { whole := decimals n }
  | .negSucc n => { negative := true, whole := decimals (n + 1) }

theorem Token.numeral_toDigits (c : Char) (negative : Bool) (n : Nat) :
    numeral c negative (Nat.toDigits 10 n) = (.number { negative, whole := decimals n }, []) := by
  rw [numeral, takeNumber_toDigits]

theorem not_isBlank_of_isDigit {c : Char} (hc : isDigit c) : ¬ isBlank c = true := by
  intro hblank
  simp only [isBlank, Bool.or_eq_true, beq_iff_eq] at hblank
  rcases hblank with ((rfl | rfl) | rfl) | rfl <;> exact absurd hc (by decide)

theorem scan_repr : ∀ i : Int, Token.scan (Int.repr i).toList = [.number (integerNumeral i)]
  | .ofNat n => by
    have htext : (Int.repr (.ofNat n)).toList = Nat.toDigits 10 n := String.toList_ofList
    obtain ⟨c, cs, hdigits⟩ := List.exists_cons_of_ne_nil (Nat.toDigits_ne_nil (n := n) (b := 10))
    have hc : isDigit c := isDigit_of_mem_toDigits (n := n) (hdigits ▸ List.mem_cons_self)
    have hnext : Token.next c cs = (.number (integerNumeral (.ofNat n)), []) := by
      rw [Token.next_of_isDigit hc, ← hdigits, Token.numeral_toDigits, integerNumeral]
    rw [htext, hdigits, Token.scan, if_neg (not_isBlank_of_isDigit hc), hnext]
    exact congrArg _ Token.scan_nil
  | .negSucc n => by
    have htext : (Int.repr (.negSucc n)).toList = '-' :: Nat.toDigits 10 (n + 1) := by
      change ("-" ++ Nat.repr (n + 1)).toList = _
      rw [String.toList_append]
      exact congrArg _ String.toList_ofList
    have hnext : Token.next '-' (Nat.toDigits 10 (n + 1)) =
        (.number (integerNumeral (.negSucc n)), []) := by
      rw [Token.next, Token.numeral_toDigits, integerNumeral]
    rw [htext, Token.scan, if_neg (by decide), hnext]
    exact congrArg _ Token.scan_nil

/-- What an integer of 64 bits is as a number. -/
def integerAmount : Int → Amount
  | .ofNat n => .natural n
  | .negSucc n => .negative (.negSucc n)

theorem amount?_integerNumeral {i : Int} (hlow : -9223372036854775808 ≤ i)
    (hhigh : i < 9223372036854775808) : (integerNumeral i).amount? = some (integerAmount i) := by
  have hmax : Numeral.maxSignificand = 18446744073709551615 := rfl
  have hbound : Nat.pow 2 63 = 9223372036854775808 := rfl
  cases i with
  | ofNat n =>
    have hsmall : (n : Int) < 9223372036854775808 := hhigh
    have hn : n ≤ Numeral.maxSignificand := by omega
    rw [Numeral.amount?, integerNumeral, accumulate_decimals hn]
    rfl
  | negSucc n =>
    have hn : n + 1 ≤ Numeral.maxSignificand := by omega
    have hfits : n + 1 ≤ Nat.pow 2 63 := by omega
    rw [Numeral.amount?, integerNumeral, accumulate_decimals hn]
    simp [Numeral.isInteger, hfits, integerAmount, Int.negSucc_eq]

end ProviderCode.Json
