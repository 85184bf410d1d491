import ProviderCode.Decimal.Layout

/-!
# Characters of numbers

However a number is laid out, it is written with digits, signs, a point, and the letters of its
exponent and of what is not finite.
-/

namespace ProviderCode.Decimal

/-- The characters that numbers are written with. -/
def inNumber (c : Char) : Bool :=
  c.isDigit || ['.', '-', '+', 'e', 'i', 'n', 'f', 'N', 'a'].contains c

/-- A text of such characters only. -/
def NumberText (text : String) : Prop := ∀ c ∈ text.toList, inNumber c = true

namespace NumberText

variable {a b : String}

theorem append (ha : NumberText a) (hb : NumberText b) : NumberText (a ++ b) := by
  intro c hc
  rw [String.toList_append, List.mem_append] at hc
  rcases hc with hc | hc
  · exact ha c hc
  · exact hb c hc

theorem ofList {text : List Char} (h : ∀ c ∈ text, inNumber c = true) :
    NumberText (String.ofList text) := by
  intro c hc
  rw [String.toList_ofList] at hc
  exact h c hc

theorem given {text : List Char} (h : text.all inNumber = true) : NumberText (String.ofList text) :=
  ofList fun c hc => List.all_eq_true.mp h c hc

theorem zeros (n : Nat) : NumberText (String.ofList (List.replicate n '0')) :=
  ofList fun c hc => by
    rw [List.eq_of_mem_replicate hc]
    decide

theorem natural (n : Nat) : NumberText (Nat.repr n) := by
  refine ofList fun c hc => ?_
  have hdigit : c.isDigit = true := Nat.isDigit_of_mem_toDigits (by decide) (by decide) hc
  rw [inNumber, hdigit, Bool.true_or]

theorem integer (i : Int) : NumberText (Int.repr i) := by
  cases i with
  | ofNat n => exact natural n
  | negSucc n =>
    have hsign : NumberText "-" := given (by decide)
    exact hsign.append (natural (n + 1))

theorem positional {digits : String} (h : NumberText digits) (exponent : Int) :
    NumberText (Layout.positional digits exponent) := by
  have hzero : NumberText "0." := given (by decide)
  have hpoint : NumberText "." := given (by decide)
  have hplace : NumberText ".0" := given (by decide)
  unfold Layout.positional
  dsimp only
  split
  · exact (hzero.append (zeros _)).append h
  · split
    · exact (h.append (zeros _)).append hplace
    · have hwhole : ∀ c ∈ digits.toList.take (exponent.toNat + 1), inNumber c = true :=
        fun c hc => h c (List.mem_of_mem_take hc)
      have hfraction : ∀ c ∈ digits.toList.drop (exponent.toNat + 1), inNumber c = true :=
        fun c hc => h c (List.mem_of_mem_drop hc)
      exact ((ofList hwhole).append hpoint).append (ofList hfraction)

theorem scientific {digits : String} (h : NumberText digits) (layout : Layout) (exponent : Int) :
    NumberText (layout.scientific digits exponent) := by
  have hpoint : NumberText "." := given (by decide)
  have he : NumberText "e" := given (by decide)
  have hsingle : ∀ d ∈ digits.toList, NumberText (String.singleton d) := by
    intro d hd c hc
    rw [String.toList_singleton, List.mem_singleton] at hc
    exact hc ▸ h d hd
  unfold Layout.scientific
  refine ((append (append ?mantissa he) ?sign).append (natural _))
  case mantissa =>
    split
    · exact given (by decide)
    · next d heq =>
      exact hsingle d (heq ▸ List.mem_cons_self)
    · next d rest _ heq =>
      refine ((hsingle d (heq ▸ List.mem_cons_self)).append hpoint).append (ofList fun c hc => ?_)
      exact h c (heq ▸ List.mem_cons_of_mem d hc)
  case sign =>
    split
    · exact given (by decide)
    · split <;> exact given (by decide)

/-- Every number is written with these characters. -/
theorem write (layout : Layout) (x : Float) : NumberText (layout.write x) := by
  have hmagnitude : ∀ y : Binary64, NumberText (layout.magnitude y) := by
    intro y
    unfold Layout.magnitude
    dsimp only
    split
    · exact given (by decide)
    · split
      · exact (natural _).positional _
      · exact (natural _).scientific layout _
  unfold Layout.write
  split
  · next negative y _ =>
    refine append ?_ (hmagnitude y)
    split <;> exact given (by decide)
  · split
    · exact given (by decide)
    · split <;> exact given (by decide)

end NumberText

end ProviderCode.Decimal
