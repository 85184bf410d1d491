/-!
# Generation errors

Why no code can be generated for a specification that has been read.
-/

namespace ProviderCode

inductive GenerationError
  /-- A part that the kind of an attribute, block or resource needs is not given. -/
  | missingPart (name kind part : String)
  /-- Two children of one object have the same name. -/
  | duplicateName (name parent : String)
  /-- No code can be generated for a combination of facets. -/
  | unsupported (name kind feature : String)
  /-- A template does not fit its context. -/
  | template (file name : String)
deriving DecidableEq, Repr

/-- The result of building or generating. -/
abbrev Generated := Except GenerationError

namespace GenerationError

def message : GenerationError → String
  | .missingPart name kind part =>
    "Cannot build " ++ kind ++ " '" ++ name ++ "': " ++ part ++ " is missing"
  | .duplicateName name parent => "Duplicate name '" ++ name ++ "' in '" ++ parent ++ "'"
  | .unsupported name kind feature =>
    feature ++ " is not supported for " ++ kind ++ " '" ++ name ++ "'"
  | .template file name => "Failed to render template '" ++ file ++ "' for '" ++ name ++ "'"

/-- A stable code for the cause. -/
def code : GenerationError → String
  | .missingPart _ _ _ => "schemagen::codegen::construction"
  | .duplicateName _ _ => "schemagen::codegen::duplicate_name"
  | .unsupported _ _ _ => "schemagen::codegen::unimplemented"
  | .template _ _ => "schemagen::codegen::render"

/-- Advice, where there is some. -/
def help? : GenerationError → Option String
  | .missingPart _ _ _ => some "Add the missing field to the specification"
  | .duplicateName _ _ => some "Attribute and block names must be unique within an object"
  | .unsupported _ _ _ =>
    some ("Associated external types are supported on single nested attributes and blocks whose "
      ++ "children are scalars or bound single nested attributes")
  | .template _ _ => none

/-- Whether the specification is sound and only the generator does not support it. -/
def isUnsupported : GenerationError → Bool
  | .unsupported _ _ _ => true
  | _ => false

end GenerationError

end ProviderCode
