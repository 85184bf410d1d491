import ProviderCode.Specification.Facet

/-!
# Element types

The types of the values inside lists, maps, sets and objects that have no schema of their own.
-/

namespace ProviderCode

/-- The types without parts. -/
inductive Scalar
  | bool
  | float64
  | int64
  | number
  | string
deriving DecidableEq, Repr, Inhabited

/-- The collections of values of one type. -/
inductive Shape
  | list
  | map
  | set
deriving DecidableEq, Repr, Inhabited

inductive ElementType
  | scalar (type : Scalar) (custom : Option CustomType)
  | collection (shape : Shape) (custom : Option CustomType) (element : ElementType)
  | object (custom : Option CustomType) (attributes : List (String × ElementType))
deriving Repr

namespace ElementType

instance : Inhabited ElementType := ⟨.scalar .bool none⟩

def custom : ElementType → Option CustomType
  | .scalar _ custom | .collection _ custom _ | .object custom _ => custom

mutual

/-- Equality; the order of an object's attributes counts. -/
def same : ElementType → ElementType → Bool
  | .scalar s c, .scalar s' c' => s == s' && c == c'
  | .collection s c e, .collection s' c' e' => s == s' && c == c' && same e e'
  | .object c as, .object c' as' => c == c' && sameAttributes as as'
  | _, _ => false
termination_by structural a => a

def sameAttributes : List (String × ElementType) → List (String × ElementType) → Bool
  | [], [] => true
  | (name, type) :: as, (name', type') :: as' =>
    name == name' && same type type' && sameAttributes as as'
  | _, _ => false
termination_by structural as => as

end

instance : BEq ElementType := ⟨same⟩

end ElementType

end ProviderCode
