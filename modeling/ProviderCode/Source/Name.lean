import ProviderCode.Text.Alphanumeric
import ProviderCode.Text.Lowercase
import ProviderCode.Text.Uppercase

/-!
# Names in generated code

Names in a specification are words joined by underscores or hyphens. Types and fields are named in
Pascal case, each word capitalised and the joints left out, and local variables in camel case. Only
the first character of a word changes.
-/

namespace ProviderCode.Name

/-- What joins words. -/
def isJoint (c : Char) : Bool := c == '_' || c == '-'

/-- The stretches between the characters of which `isGap` holds. -/
def stretches (isGap : Char → Bool) : List Char → List (List Char)
  | [] => [[]]
  | c :: cs =>
    match isGap c, stretches isGap cs with
    | false, stretch :: rest => (c :: stretch) :: rest
    | _, rest => [] :: rest

/-- The stretches that are not empty. -/
def words (isGap : Char → Bool) (cs : List Char) : List (List Char) :=
  (stretches isGap cs).filter (!·.isEmpty)

/-- A word with its first character in uppercase. -/
def capitalize : List Char → List Char
  | [] => []
  | c :: cs => Text.uppercase c ++ cs

/-- A word with its first character in lowercase. -/
def uncapitalize : List Char → List Char
  | [] => []
  | c :: cs => Text.lowercase c ++ cs

/-- Pascal case of a name. -/
def pascalChars (cs : List Char) : List Char := (words isJoint cs).flatMap capitalize

/-- Pascal case: `source_port` becomes `SourcePort`. -/
def pascal (name : String) : String := String.ofList (pascalChars name.toList)

/-- Camel case: `source_port` becomes `sourcePort`. -/
def camel (name : String) : String := String.ofList (uncapitalize (pascalChars name.toList))

/-- What no word of a type expression holds. -/
def isPunctuation (c : Char) : Bool := !Text.isAlphanumeric c && c != '_'

/-- A name made of the words of a type expression: `*sdk.Widget` becomes `SdkWidget`. -/
def suffix (expression : String) : String :=
  String.ofList ((words isPunctuation expression.toList).flatMap pascalChars)

end ProviderCode.Name
