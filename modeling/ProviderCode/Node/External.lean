import ProviderCode.Source.Imports
import ProviderCode.Source.Name
import ProviderCode.Specification.Facet

/-!
# External types

A type of another library that objects convert to and from. Its expression may say that it is used
by pointer.
-/

namespace ProviderCode.ExternalType

/-- Whether the type is used by pointer. -/
def isPointer (t : ExternalType) : Bool := t.type.toList.head? == some '*'

/-- The type that the expression refers to, without the star of a pointer. -/
def reference (t : ExternalType) : String :=
  match t.type.toList with
  | '*' :: rest => String.ofList rest
  | _ => t.type

/-- What conversions to and from the type are named after. -/
def suffix (t : ExternalType) : String := Name.suffix t.type

/-- The expression of the value that stands for no object. -/
def zero (t : ExternalType) : String := if t.isPointer then "nil" else t.reference ++ "\x7b\x7d"

def imports (t : ExternalType) : Imports :=
  match t.origin.filter Import.hasPath with
  | some i => (Imports.empty.insert i).insertPackage .basetypes
  | none => .empty

end ProviderCode.ExternalType
