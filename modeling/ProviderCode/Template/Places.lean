import ProviderCode.Template.Basic

/-!
# Places

The places that the templates of this library share: the name of the generated type, and what is
known of one field of it.
-/

namespace ProviderCode.Template

/-- The name that the template's declarations are made for. -/
def name : Piece := .value ⟨"name", []⟩

/-- Something known of the current field. -/
def field (key : String) : Piece := .value ⟨"field", [key]⟩

/-- Something known of the collection that the current field is. -/
def ofCollection (key : String) : Piece := .value ⟨"field", ["collection", key]⟩

end ProviderCode.Template
