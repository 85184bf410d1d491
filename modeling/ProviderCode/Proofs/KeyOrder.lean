import ProviderCode.Proofs.RegularTypes

/-!
# Order of keys

The order of the keys in a specification document does not matter: not at the top, and not in any
object at any depth, whether it is read while the text is or kept whole at first. Only where a name is
given several kinds does the first one count, so the documents are those in which that does not happen.
-/

namespace ProviderCode

open Json (Document Value)

/-- Regular formats read texts alike whose keys are in different orders. -/
theorem Format.Regular.readText_agree {α : Type} {format : Format α} {p : Position}
    (h : format.Regular p) {text text' : String}
    (hreordered : (Document.ofText text).root.Reordered (Document.ofText text').root)
    (htrailing : (Document.ofText text).trailing = (Document.ofText text').trailing)
    (hkind : (Document.ofText text).root.OneKind p) :
    Agree (format.readText text) (format.readText text') := fun a => by
  rw [readText_eq_ok, readText_eq_ok, htrailing, h.unordered hreordered hkind]

/-- A specification text with the keys of its objects in any other order, at any depth, is read if and
only if the text is, and as the same specification. No attribute, block or attribute of an object type
may have several kinds; that the keys of an object are different is not needed. -/
theorem readText_reordered {text text' : String}
    (hreordered : (Document.ofText text).root.Reordered (Document.ofText text').root)
    (htrailing : (Document.ofText text).trailing = (Document.ofText text').trailing)
    (hkind : (Document.ofText text).root.OneKind .specification) (specification : Specification) :
    Specification.record.format.readText text = .ok specification ↔
      Specification.record.format.readText text' = .ok specification :=
  Specification.regular.readText_agree hreordered htrailing hkind specification

/-- A specification document with an attribute inside an attribute, a key that is not known, and a
default. -/
def orderedDocument : Value :=
  .object [("version", .string "0.1"), ("resources", .array [.object [
    ("name", .string "gauge"), ("schema", .object [("attributes", .array [.object [
      ("name", .string "levels"), ("note", .object [("a", .null), ("b", .null)]),
      ("list_nested", .object [("computed_optional_required", .string "required"),
        ("nested_object", .object [("attributes", .array [.object [("name", .string "unit"),
          ("string", .object [("computed_optional_required", .string "computed"),
            ("default", .object [("static", .string "m")])])]])])])]])])]])]

/-- The document with the keys of its objects in other orders. -/
def reorderedDocument : Value :=
  .object [("resources", .array [.object [
    ("schema", .object [("attributes", .array [.object [
      ("list_nested", .object [("nested_object", .object [("attributes", .array [.object [
          ("string", .object [("default", .object [("static", .string "m")]),
            ("computed_optional_required", .string "computed")]), ("name", .string "unit")]])]),
        ("computed_optional_required", .string "required")]),
      ("note", .object [("b", .null), ("a", .null)]), ("name", .string "levels")]])]),
    ("name", .string "gauge")]]), ("version", .string "0.1")]

def gaugeSpecification : Specification where
  version := some "0.1"
  resources := [{
    name := "gauge"
    schema := some {
      attributes := [.mk "levels" (.nested .list { mode := .required } (some {
        attributes := [.mk "unit" (.leaf (.string {
          mode := .computed, default := some { literal := some "m" } }))] }))] } }]

theorem orderedDocument_reordered : orderedDocument.tree.Reordered reorderedDocument.tree := by
  refine .object (.cons (.mk _ (.same _)) (.cons (.mk _ (.array (.cons ?resource .nil))) .nil))
    (.swap ..)
  refine .object (.cons (.mk _ (.same _)) (.cons (.mk _ (.object
    (.cons (.mk _ (.array (.cons ?levels .nil))) .nil) (.refl _))) .nil)) (.swap ..)
  refine .object (.cons (.mk _ (.same _)) (.cons (.mk _ ?note) (.cons (.mk _ ?nested) .nil)))
    (List.reverse_perm _).symm
  case note => exact .object (.cons (.mk _ (.same _)) (.cons (.mk _ (.same _)) .nil)) (.swap ..)
  case nested =>
    refine .object (.cons (.mk _ (.same _)) (.cons (.mk _ (.object
      (.cons (.mk _ (.array (.cons ?unit .nil))) .nil) (.refl _))) .nil)) (.swap ..)
    exact .object (.cons (.mk _ (.same _)) (.cons (.mk _ (.object
      (.cons (.mk _ (.same _)) (.cons (.mk _ (.same _)) .nil)) (.swap ..))) .nil)) (.swap ..)

/-- Both texts are read as the same specification. -/
theorem readText_reordered_gauge :
    (Document.ofText orderedDocument.compact).root.Reordered
      (Document.ofText reorderedDocument.compact).root ∧
    (Document.ofText orderedDocument.compact).trailing =
      (Document.ofText reorderedDocument.compact).trailing ∧
    (Document.ofText orderedDocument.compact).root.OneKind .specification ∧
    Specification.record.format.readText orderedDocument.compact = .ok gaugeSpecification ∧
    Specification.record.format.readText reorderedDocument.compact = .ok gaugeSpecification := by
  have hordered : Document.ofText orderedDocument.compact = ⟨orderedDocument.tree, false⟩ :=
    Value.ofText_compact (by repeat' constructor)
  have hreordered : Document.ofText reorderedDocument.compact = ⟨reorderedDocument.tree, false⟩ :=
    Value.ofText_compact (by repeat' constructor)
  have htrees : (Document.ofText orderedDocument.compact).root.Reordered
      (Document.ofText reorderedDocument.compact).root := by
    rw [hordered, hreordered]
    exact orderedDocument_reordered
  have htrailing : (Document.ofText orderedDocument.compact).trailing =
      (Document.ofText reorderedDocument.compact).trailing := by
    rw [hordered, hreordered]
  have hkind : (Document.ofText orderedDocument.compact).root.OneKind .specification := by
    rw [hordered]
    decide
  have hread : Specification.record.format.readText orderedDocument.compact =
      .ok gaugeSpecification := by
    rw [Format.readText_eq_ok, hordered]
    exact ⟨rfl, rfl⟩
  exact ⟨htrees, htrailing, hkind, hread,
    (readText_reordered htrees htrailing hkind gaugeSpecification).mp hread⟩

end ProviderCode
