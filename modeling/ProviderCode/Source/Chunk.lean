import ProviderCode.Source.Literal
import ProviderCode.Source.Package

/-!
# Source text

Generated text as a list of chunks that tell where each stretch comes from: fixed text of the
generator, a framework name, a name derived from the specification, a text of it in quotes, or an
expression of it as it is written there.
-/

namespace ProviderCode

inductive Chunk
  | fixed (text : String)
  /-- A name of a package. -/
  | qualified (package : Package) (member : String)
  /-- A name in Pascal case. -/
  | name (text : String)
  /-- A text that stands as a string literal. -/
  | literal (text : String)
  /-- An expression of the specification. -/
  | verbatim (expression : String)
deriving DecidableEq, Repr

/-- Generated source text. -/
abbrev Source := List Chunk

/-- The characters that a chunk stands for. -/
def Chunk.text : Chunk → String
  | .fixed text | .name text | .verbatim text => text
  | .qualified package member => package.qualifier ++ "." ++ member
  | .literal text => Literal.encode text

/-- A source between an opening and a closing one. -/
def Source.enclose (opening inner closing : Source) : Source := opening ++ inner ++ closing

/-- The text of a source. -/
def Source.text (source : Source) : String := String.join (source.map Chunk.text)

@[simp] theorem Source.text_nil : Source.text [] = "" := rfl

@[simp] theorem Source.text_cons (chunk : Chunk) (source : Source) :
    Source.text (chunk :: source) = chunk.text ++ Source.text source := by
  simp [Source.text, String.join_cons]

@[simp] theorem Source.text_append (a b : Source) :
    Source.text (a ++ b) = Source.text a ++ Source.text b := by
  induction a with
  | nil => simp
  | cons chunk rest ih => simp [ih, String.append_assoc]

@[simp] theorem Source.text_enclose (opening inner closing : Source) :
    Source.text (opening.enclose inner closing)
      = Source.text opening ++ Source.text inner ++ Source.text closing := by
  simp [Source.enclose, String.append_assoc]

end ProviderCode
