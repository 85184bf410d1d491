/-!
# Case runs

Letters of a script mostly change case by a fixed distance, either every code point of a stretch or
every second one.
-/

namespace ProviderCode.Text

/-- Every `stride`-th code point from `first` to `last` changes case by adding `shift`. -/
structure CaseRun where
  first : Nat
  last : Nat
  stride : Nat
  shift : Int

namespace CaseRun

/-- Whether the run maps the code point. -/
def holds (run : CaseRun) (code : Nat) : Bool :=
  run.first ≤ code && code ≤ run.last && (code - run.first) % run.stride == 0

/-- The image of a character: its listed one, else the one its run gives, else itself. -/
def map (runs : List CaseRun) (special : List (Nat × List Char)) (c : Char) : List Char :=
  match special.lookup c.toNat with
  | some image => image
  | none =>
    match runs.find? (·.holds c.toNat) with
    | some run => [Char.ofNat (Int.toNat (c.toNat + run.shift))]
    | none => [c]

end CaseRun

end ProviderCode.Text
