import ProviderCode.Json.Token

/-!
# JSON trees

`Document.ofText` reads a text into a tree. It never fails: where the text is at fault the tree says
so in place, because whether a fault matters, and which of several faults is the first one, depends
on what is looked for. Who reads the tree in the order of the text meets the first fault first.

An array or object that is not closed is the last thing in its text, and so is a broken value.
-/

namespace ProviderCode.Json

open Decimal (Numeral)

/-- How the parts of an array or object come to an end. -/
inductive Ending
  | closed
  /-- Neither a comma nor the closing bracket follows the last part. -/
  | broken (fault : Fault)
  /-- No key stands where a key is due; the token that stands there, if any. -/
  | noKey (found : Option Token)
  /-- The text breaks off inside the last part. -/
  | unread
deriving DecidableEq, Repr

inductive Tree
  | null
  | bool (b : Bool)
  | number (n : Numeral)
  /-- A string; it has no text if an escape in it names half of a surrogate pair. -/
  | string (text : Option String)
  | array (items : List Tree) (ending : Ending)
  | object (members : List (Option String × Tree)) (ending : Ending)
  /-- No value stands where a value is due: the first character of a broken token, if there is one,
  the fault if the value is read, and the fault if it is passed over. -/
  | broken (start : Option Char) (read skipped : Fault)

/-- A text's value, and whether anything follows it. -/
structure Document where
  root : Tree
  trailing : Bool

/-! ### Faults of a whole value -/

namespace Ending

/-- The fault met at the end of an array or object that is read. -/
def readFault? : Ending → Option Fault
  | .closed => none
  | .broken fault => some fault
  | .noKey none => some .truncated
  | .noKey (some (.broken '"' read _)) => some read
  | .noKey (some _) => some .malformed
  | .unread => some .malformed

/-- The fault met at the end of an array or object that is passed over. -/
def skipFault? : Ending → Option Fault
  | .noKey (some (.broken '"' _ skipped)) => some skipped
  | ending => ending.readFault?

end Ending

mutual

/-- The first fault met when a value is passed over. -/
def Tree.skipFault? : Tree → Option Fault
  | .null | .bool _ | .number _ | .string _ => none
  | .array items ending => (skipItemsFault? items).or ending.skipFault?
  | .object members ending => (skipMembersFault? members).or ending.skipFault?
  | .broken _ _ skipped => some skipped
termination_by structural tree => tree

def skipItemsFault? : List Tree → Option Fault
  | [] => none
  | item :: items => item.skipFault?.or (skipItemsFault? items)
termination_by structural items => items

def skipMembersFault? : List (Option String × Tree) → Option Fault
  | [] => none
  | (_, value) :: members => value.skipFault?.or (skipMembersFault? members)
termination_by structural members => members

end

mutual

/-- The first fault met when a value is read whole with room for `room` more containers inside each
other. -/
def Tree.readFault? : Tree → Nat → Option Fault
  | .null, _ | .bool _, _ => none
  | .number n, _ => if n.amount?.isSome then none else some .malformed
  | .string text, _ => if text.isSome then none else some .malformed
  | .array _ _, 0 | .object _ _, 0 => some .malformed
  | .array items ending, room + 1 => (readItemsFault? items room).or ending.readFault?
  | .object members ending, room + 1 => (readMembersFault? members room).or ending.readFault?
  | .broken _ read _, _ => some read
termination_by structural tree => tree

def readItemsFault? : List Tree → Nat → Option Fault
  | [], _ => none
  | item :: items, room => (item.readFault? room).or (readItemsFault? items room)
termination_by structural items => items

def readMembersFault? : List (Option String × Tree) → Nat → Option Fault
  | [], _ => none
  | (none, _) :: _, _ => some .malformed
  | (some _, value) :: members, room => (value.readFault? room).or (readMembersFault? members room)
termination_by structural members => members

end

/-! ### From tokens to a tree -/

/-- An array or object that waits for the value of its next part; the parts it has, last first. -/
inductive Frame
  | array (items : List Tree)
  | object (members : List (Option String × Tree)) (key : Option String)

/-- What may come next. An array or object named here is the innermost one. -/
inductive Due
  | value
  /-- The first item of an array, or its end. -/
  | firstItem
  /-- The first key of an object, or its end. -/
  | firstKey
  /-- A key after a comma. -/
  | key (members : List (Option String × Tree))
  | colon (members : List (Option String × Tree)) (key : Option String)
  /-- A comma or the end of the array. -/
  | afterItem (items : List Tree)
  /-- A comma or the end of the object. -/
  | afterMember (members : List (Option String × Tree))
  /-- Nothing: the value is complete. -/
  | nothing (root : Tree)

/-- What a token starts where a value is due. -/
inductive Start
  | whole (value : Tree)
  | array
  | object
  | fault (value : Tree)

/-- What the token starts as a value. -/
def Token.start : Token → Start
  | .null => .whole .null
  | .bool b => .whole (.bool b)
  | .number n => .whole (.number n)
  | .string text => .whole (.string text)
  | .openArray => .array
  | .openObject => .object
  | .broken start read skipped => .fault (.broken (some start) read skipped)
  | .closeArray | .closeObject | .comma | .colon => .fault (.broken none .malformed .malformed)

namespace Document

/-- The document of a text that breaks off at the value, with all that is open around it. -/
def abandon (value : Tree) : List Frame → Document
  | [] => ⟨value, false⟩
  | .array items :: frames => abandon (.array (value :: items).reverse .unread) frames
  | .object members key :: frames =>
    abandon (.object ((key, value) :: members).reverse .unread) frames

/-- Where reading goes on after a complete value. -/
def resume (value : Tree) : List Frame → Due × List Frame
  | [] => (.nothing value, [])
  | .array items :: frames => (.afterItem (value :: items), frames)
  | .object members key :: frames => (.afterMember ((key, value) :: members), frames)

/-- Reads on from the tokens that are left. -/
def build : Due → List Frame → List Token → Document
  | .nothing root, _, rest => ⟨root, !rest.isEmpty⟩
  | .value, frames, [] => abandon (.broken none .truncated .truncated) frames
  | .value, frames, token :: rest =>
    match token.start with
    | .whole value => build (resume value frames).1 (resume value frames).2 rest
    | .array => build .firstItem frames rest
    | .object => build .firstKey frames rest
    | .fault value => abandon value frames
  | .firstItem, frames, [] => abandon (.broken none .truncated .truncated) (.array [] :: frames)
  | .firstItem, frames, .closeArray :: rest =>
    build (resume (.array [] .closed) frames).1 (resume (.array [] .closed) frames).2 rest
  | .firstItem, frames, token :: rest =>
    match token.start with
    | .whole value => build (.afterItem [value]) frames rest
    | .array => build .firstItem (.array [] :: frames) rest
    | .object => build .firstKey (.array [] :: frames) rest
    | .fault value => abandon value (.array [] :: frames)
  | .firstKey, frames, [] => abandon (.object [] (.noKey none)) frames
  | .firstKey, frames, .closeObject :: rest =>
    build (resume (.object [] .closed) frames).1 (resume (.object [] .closed) frames).2 rest
  | .firstKey, frames, .string text :: rest => build (.colon [] text) frames rest
  | .firstKey, frames, token :: _ => abandon (.object [] (.noKey (some token))) frames
  | .key members, frames, [] => abandon (.object members.reverse (.noKey none)) frames
  | .key members, frames, .string text :: rest => build (.colon members text) frames rest
  | .key members, frames, token :: _ =>
    abandon (.object members.reverse (.noKey (some token))) frames
  | .colon members key, frames, [] =>
    abandon (.broken none .truncated .truncated) (.object members key :: frames)
  | .colon members key, frames, .colon :: rest => build .value (.object members key :: frames) rest
  | .colon members key, frames, _ :: _ =>
    abandon (.broken none .malformed .malformed) (.object members key :: frames)
  | .afterItem items, frames, [] => abandon (.array items.reverse (.broken .truncated)) frames
  | .afterItem items, frames, .comma :: rest => build .value (.array items :: frames) rest
  | .afterItem items, frames, .closeArray :: rest =>
    let value := Tree.array items.reverse .closed
    build (resume value frames).1 (resume value frames).2 rest
  | .afterItem items, frames, _ :: _ => abandon (.array items.reverse (.broken .malformed)) frames
  | .afterMember members, frames, [] =>
    abandon (.object members.reverse (.broken .truncated)) frames
  | .afterMember members, frames, .comma :: rest => build (.key members) frames rest
  | .afterMember members, frames, .closeObject :: rest =>
    let value := Tree.object members.reverse .closed
    build (resume value frames).1 (resume value frames).2 rest
  | .afterMember members, frames, _ :: _ =>
    abandon (.object members.reverse (.broken .malformed)) frames
termination_by structural _ _ tokens => tokens

/-- Reads a text. -/
def ofText (text : String) : Document := build .value [] (Token.scan text.toList)

end Document

end ProviderCode.Json
