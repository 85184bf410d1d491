import ProviderCode.Format.Basic

/-!
# Choices

A choice is one of several named alternatives. It is written as an object with one key, the name of
the alternative, and its content under it; or, where the alternative has no content, as its name
alone.

A tagged record is an object that holds a name next to the key of its alternative. All its members
but the name are kept whole until the end of the object, and then the first one whose key names an
alternative is read. The others do not count.
-/

namespace ProviderCode

open Json (Tree Ending Value)

/-- The members of a kept object, as keys with their trees. -/
abbrev Members := List (Option String × Tree)

namespace Choice

/-- The end of an object that must not have another member. -/
def finish : Members → Ending → Read Unit
  | [], .closed => .ok ()
  | [], .broken fault => .error (.fault fault)
  | _, _ => .error (.fault .malformed)

/-- Reads a choice while the text is read. The alternative is looked up before its content is read;
its content is absent if the name stands alone. -/
def readStreamed {α : Type} (known : List String)
    (content : Setting → String → Option Tree → Read α) : Reader α := fun s tree =>
  match tree with
  | .object [] ending => do
    let _ ← s.enter
    unlessFault ending.readFault?
    .error (.fault .malformed)
  | .object ((none, _) :: _) _ => .error (.fault .malformed)
  | .object ((some key, tree) :: members) ending => do
    let inner ← s.enter
    if !known.contains key then throw (.unknown key known)
    let a ← content inner key (some tree)
    finish members ending
    return a
  | .string (some key) =>
    if known.contains key then content s key none else .error (.unknown key known)
  | .broken (some c) read _ => .error (.fault (if c = '"' then read else .malformed))
  | .broken none read _ => .error (.fault read)
  | _ => .error (.fault .malformed)

/-- Reads a choice that has been kept whole. -/
def readKept {α : Type} (known : List String) (content : Setting → String → Option Tree → Read α) :
    Reader α := fun s tree =>
  match tree with
  | .object [(some key, tree)] _ => do
    let inner ← s.enter
    if !known.contains key then throw (.unknown key known)
    content inner key (some tree)
  | .object _ _ => .error .severalKeys
  | .string (some key) =>
    if known.contains key then content s key none else .error (.unknown key known)
  | tree => .error (mismatch .alternativeForm tree)

/-- Reads one of the known alternatives. -/
def read {α : Type} (known : List String) (content : Setting → String → Option Tree → Read α) :
    Reader α := fun s tree =>
  if s.kept then readKept known content s tree else readStreamed known content s tree

/-- The content of an alternative that must have some. -/
def withContent {α : Type} (reader : Reader α) (s : Setting) : Option Tree → Read α
  | some tree => reader s tree
  | none => .error .nameAlone

/-- The content of an alternative without any: nothing, null, or in a kept value an empty object. -/
def noContent (s : Setting) : Option Tree → Read Unit
  | none | some .null => .ok ()
  | some (.object [] .closed) =>
    if s.kept then .ok () else .error (mismatch .nothing (.object [] .closed))
  | some tree => .error (mismatch .nothing tree)

/-- Reads one of the known alternatives, all of which have content. -/
def readAlternative {α : Type} (known : List String)
    (alternative? : String → Option (Reader α)) : Reader α :=
  read known fun s key tree =>
    match alternative? key with
    | some reader => withContent reader s tree
    | none => .error (.unknown key known)

end Choice

/-! ### Alternatives without content -/

/-- A format of named alternatives without content. -/
def Format.names {α : Type} (names : List (String × α)) (name : α → String) : Format α where
  read := Choice.read (names.map (·.1)) fun s key tree =>
    match names.lookup key with
    | some a => do
      Choice.noContent s tree
      return a
    | none => .error (.unknown key (names.map (·.1)))
  write a := .string (name a)

/-! ### Tagged records -/

namespace Tagged

/-- Reads the name, and keeps the other members, in the order of the text. -/
def readMembers (s : Setting) : Option String → Members → Read (Option String)
  | name, [] => .ok name
  | _, (none, _) :: _ => .error (.fault .malformed)
  | name, (some key, tree) :: members => do
    if key = "name" then
      if name.isSome then throw (.repeated key)
      readMembers s (some (← Format.string.read s tree)) members
    else
      if !s.kept then unlessFault (tree.readFault? s.room)
      readMembers s name members

/-- The first member whose key names an alternative. -/
def choose? {κ : Type} (alternative? : String → Option (Reader κ)) :
    Members → Option (Reader κ × Tree)
  | [] => none
  | (none, _) :: members => choose? alternative? members
  | (some key, tree) :: members =>
    match alternative? key with
    | some reader => some (reader, tree)
    | none => choose? alternative? members

/-- Reads a name and an alternative. -/
def read {κ : Type} (record choice : String) (alternative? : String → Option (Reader κ)) :
    Reader (String × κ) := fun s tree =>
  match tree with
  | .object members ending => do
    let inner ← s.enter
    let name ← readMembers inner none members
    unlessFault ending.readFault?
    match name, choose? alternative? members with
    | none, _ => throw (.missing "name")
    | some _, none => throw (.noAlternative choice)
    | some name, some (reader, tree) => return (name, ← reader { inner with kept := true } tree)
  | tree => .error (mismatch (.record record) tree)

/-- Writes a name and an alternative. -/
def write (name : String) (alternative : String) (content : Value) : Value :=
  .object [("name", .string name), (alternative, content)]

end Tagged

end ProviderCode
