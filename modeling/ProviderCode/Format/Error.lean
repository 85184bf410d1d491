import ProviderCode.Json.Value
import ProviderCode.Text.Shown

/-!
# Reading errors

Why a document does not have the form that is asked for. `ReadError.message` words each cause.
-/

namespace ProviderCode

open Json (Fault Tree)

/-- What stands in a document, as far as a message tells. -/
inductive Found
  | null
  | bool (b : Bool)
  | integer (i : Int)
  | float (x : Float)
  | text (s : String)
  | sequence
  | map

/-- What a reader asks for. -/
inductive Wanted
  | text
  | boolean
  | integer
  | float
  | sequence
  | record (name : String)
  /-- An alternative in either of its written forms. -/
  | alternativeForm
  /-- The empty content of an alternative without any. -/
  | nothing

inductive ReadError
  /-- The text itself is at fault. -/
  | fault (fault : Fault)
  | wrongType (found : Found) (wanted : Wanted)
  /-- An integer above the largest signed one. -/
  | tooLarge (n : Nat)
  | missing (key : String)
  | repeated (key : String)
  /-- A record written as an array lacks the field at position `length`. -/
  | tooShort (length : Nat) (record : String) (fields : Nat)
  | tooLong (length fields : Nat)
  | unknown (name : String) (known : List String)
  /-- An alternative is a map with one key; this one has none or several. -/
  | severalKeys
  /-- The name of an alternative that has content, without the content. -/
  | nameAlone
  /-- No key of a record names an alternative of the choice. -/
  | noAlternative (choice : String)

namespace Found

def describe : Found → String
  | .null => "null"
  | .bool b => "boolean `" ++ (if b then "true" else "false") ++ "`"
  | .integer i => "integer `" ++ Int.repr i ++ "`"
  | .float x => "floating point `" ++ Json.Value.floatText x ++ "`"
  | .text s => "string " ++ Text.shown s
  | .sequence => "sequence"
  | .map => "map"

def ofAmount : Decimal.Amount → Found
  | .natural n => .integer n
  | .negative i => .integer i
  | .float x => .float x

end Found

def Wanted.describe : Wanted → String
  | .text => "a string"
  | .boolean => "a boolean"
  | .integer => "i64"
  | .float => "f64"
  | .sequence => "a sequence"
  | .record name => "struct " ++ name
  | .alternativeForm => "string or map"
  | .nothing => "unit"

namespace ReadError

/-- A number of elements. -/
def elements (n : Nat) : String := if n = 1 then "1 element" else Nat.repr n ++ " elements"

/-- The message of a document that is well-formed but not of the form; a fault has none. -/
def message? : ReadError → Option String
  | .fault _ => none
  | .wrongType found wanted =>
    some ("invalid type: " ++ found.describe ++ ", expected " ++ wanted.describe)
  | .tooLarge n => some ("invalid value: integer `" ++ Nat.repr n ++ "`, expected i64")
  | .missing key => some ("missing field `" ++ key ++ "`")
  | .repeated key => some ("duplicate field `" ++ key ++ "`")
  | .tooShort length record fields =>
    some ("invalid length " ++ Nat.repr length ++ ", expected struct " ++ record ++ " with "
      ++ elements fields)
  | .tooLong length fields =>
    some ("invalid length " ++ Nat.repr length ++ ", expected " ++ elements fields
      ++ " in sequence")
  | .unknown name [] => some ("unknown variant `" ++ name ++ "`, there are no variants")
  | .unknown name known =>
    some ("unknown variant `" ++ name ++ "`, expected one of "
      ++ String.intercalate ", " (known.map fun k => "`" ++ k ++ "`"))
  | .severalKeys => some "invalid value: map, expected map with a single key"
  | .nameAlone => some "invalid type: unit variant, expected newtype variant"
  | .noAlternative choice => some ("no variant of enum " ++ choice ++ " found in flattened data")

end ReadError

end ProviderCode
