import ProviderCode.Proofs.LiteralText
import ProviderCode.Proofs.StructFields

/-!
# Keys of children

The name of a child is a key of its parent: in the parent's schema, and at five places of the parent's
pair, where the child is looked up in a map or listed in one.  The schema has the name's literal.  The
places of the pair have the name between quotes as it is.

Main statement: in every pair the key of a child is the same literal as in the schema exactly if nothing
in the name is to be escaped.  The schema's literal stands for the name always, that of the pair exactly
if the name holds no quote, backslash or end of line.
-/

namespace ProviderCode

/-! ### Places of keys -/

/-- A place of a pair where fields have keys: the lines for a field, and what stands next to its key. -/
structure KeyPlace where
  lines : FieldTexts → String
  opening : String
  closing : String

/-- What stands at the place if a literal is the key. -/
def KeyPlace.keyed (place : KeyPlace) (literal : String) : String :=
  place.opening ++ literal ++ place.closing

/-- Where a field is looked up in an object and gets its type and its value in the wire format, and
where it is listed with its value and with its type. -/
def keyPlaces : List KeyPlace := [
  ⟨TypeText.lookup, "Attribute, ok := attributes[", "]\n"⟩,
  ⟨ValueText.wireType, "\tattrTypes[", "] = "⟩,
  ⟨ValueText.wireValue, "\t\tvals[", "] = val\n"⟩,
  ⟨ValueText.mapEntry, "\t\t\t", ": "⟩,
  ⟨ValueText.attributeType, "\t\t", ": "⟩]

theorem KeyPlace.keyed_bare (place : KeyPlace) (name : String) :
    place.keyed (Literal.bare name) = place.opening ++ ("\"" ++ (name ++ ("\"" ++ place.closing))) := by
  simp only [keyed, Literal.bare, String.append_assoc]

/-- The key of a field is its name between quotes. -/
theorem occurs_key {place : KeyPlace} (h : place ∈ keyPlaces) (field : FieldTexts) :
    Occurs (place.keyed (Literal.bare field.name)) (place.lines field) := by
  rw [KeyPlace.keyed_bare]
  simp only [keyPlaces, List.mem_cons, List.not_mem_nil, or_false] at h
  rcases h with rfl | rfl | rfl | rfl | rfl
  · have hline : Occurs s!"\t{field.camel}Attribute, ok := attributes[\"{field.name}\"]\n"
        (TypeText.lookup field) := occurs_join (by simp)
    refine Occurs.trans ⟨"\t" ++ field.camel, "", ?_⟩ hline
    have hopening : "Attribute, ok := attributes[\"" = "Attribute, ok := attributes[" ++ "\"" := rfl
    have hclosing : "\"]\n" = "\"" ++ "]\n" := rfl
    simp only [Template.toString_string, hopening, hclosing, String.append_assoc, String.append_empty]
  · have hline : Occurs s!"\tattrTypes[\"{field.name}\"] = {field.attributeType}.TerraformType(ctx)\n"
        (ValueText.wireType field) := occurs_join (by simp)
    refine Occurs.trans ⟨"", field.attributeType ++ ".TerraformType(ctx)\n", ?_⟩ hline
    have hopening : "\tattrTypes[\"" = "\tattrTypes[" ++ "\"" := rfl
    have hclosing : "\"] = " = "\"" ++ "] = " := rfl
    simp only [Template.toString_string, hopening, hclosing, String.append_assoc, String.empty_append]
  · have hline : Occurs s!"\t\tvals[\"{field.name}\"] = val\n" (ValueText.wireValue field) :=
      occurs_join (by simp)
    refine Occurs.trans ⟨"", "", ?_⟩ hline
    have hopening : "\t\tvals[\"" = "\t\tvals[" ++ "\"" := rfl
    have hclosing : "\"] = val\n" = "\"" ++ "] = val\n" := rfl
    simp only [Template.toString_string, hopening, hclosing, String.append_assoc, String.empty_append,
      String.append_empty]
  · have hopening : "\t\t\t\"" = "\t\t\t" ++ "\"" := rfl
    have hcollection : "\": " = "\"" ++ ": " := rfl
    have hplain : "\": v." = "\"" ++ (": " ++ "v.") := rfl
    simp only [ValueText.mapEntry]
    split
    · refine ⟨"", field.camel ++ "Val,\n", ?_⟩
      simp only [Template.toString_string, hopening, hcollection, String.append_assoc,
        String.empty_append]
    · refine ⟨"", "v." ++ field.pascal ++ ",\n", ?_⟩
      simp only [Template.toString_string, hopening, hplain, String.append_assoc, String.empty_append]
  · refine ⟨"", field.attributeType ++ ",\n", ?_⟩
    have hopening : "\t\t\"" = "\t\t" ++ "\"" := rfl
    have hclosing : "\": " = "\"" ++ ": " := rfl
    simp only [ValueText.attributeType, Template.toString_string, hopening, hclosing,
      String.append_assoc, String.empty_append]

section Pairs

variable (owner : String × NestedObject Node)

/-- The fields of an object as the templates of its pair know them. -/
def fieldTexts : List FieldTexts := owner.2.fieldDescriptors.map FieldDescriptor.texts

theorem occurs_method {name text : String} (h : (name, text) ∈ valueMethods owner) :
    Occurs text (pairText owner) := by
  rw [pairText_eq]
  exact (occurs_join (List.mem_map_of_mem h)).append_left _

/-- The lines of all fields stand in the text of a pair at each place. -/
theorem occurs_lines {place : KeyPlace} (h : place ∈ keyPlaces) :
    Occurs (eachField place.lines (fieldTexts owner)) (pairText owner) := by
  have hmethods : ∀ m ∈ ValueText.methods (Name.pascal owner.1) (fieldTexts owner),
      Occurs m.2 (pairText owner) := fun m hm => occurs_method owner hm
  simp only [ValueText.methods, List.forall_mem_cons] at hmethods
  obtain ⟨hterraform, -, -, -, hobject, -, -, htypes, -⟩ := hmethods
  simp only [keyPlaces, List.mem_cons, List.not_mem_nil, or_false] at h
  rcases h with rfl | rfl | rfl | rfl | rfl
  · have hlines : Occurs (eachField TypeText.lookup (fieldTexts owner))
        (TypeText.valueFromObject (Name.pascal owner.1) (fieldTexts owner)) := occurs_join (by simp)
    exact (((hlines.append_left _).append_right _).append_right _).append_right _
  · exact Occurs.trans (occurs_join (by simp)) hterraform
  · exact Occurs.trans (occurs_join (by simp)) hterraform
  · exact Occurs.trans (occurs_join (by simp)) hobject
  · exact Occurs.trans (occurs_join (by simp)) htypes

/-- Each child has a field of its name. -/
theorem exists_fieldText {child : String × Node} (h : child ∈ owner.2.children) :
    ∃ field ∈ fieldTexts owner, field.name = child.1 := by
  have hname : child.1 ∈ owner.2.childNames := by
    rw [NestedObject.childNames, Children.keys, Children.keys, ← List.map_append]
    exact List.mem_map_of_mem h
  obtain ⟨field, hfield, heq⟩ := List.mem_map.mp (NestedObject.mem_names_fieldDescriptors.mpr hname)
  exact ⟨field.texts, List.mem_map_of_mem hfield, heq⟩

end Pairs

/-! ### Keys of the schema -/

/-- The schema of a node begins with its name's literal. -/
theorem Node.schema_eq_key (name : String) (node : Node) :
    ∃ rest, node.schema name = Literal.encode name ++ ": schema." ++ rest := by
  refine ⟨node.kind.schemaType ++ "\x7b\n" ++ printParts (node.contentParts name) ++
    node.facets.print ++ "\x7d,\n", ?_⟩
  rw [Node.schema_eq, Node.print_eq, firstLine]
  simp only [String.append_assoc]

/-! ### The theorem -/

/-- The keys of a child in the schema and in the pair of its parent: what they are, when they are the same
literal, and when they stand for the child's name. -/
structure HasKeys (owner : String × NestedObject Node) (child : String × Node) : Prop where
  schema_key : ∃ rest, child.2.schema child.1 = Literal.encode child.1 ++ ": schema." ++ rest
  pair_keys : ∃ field ∈ fieldTexts owner, field.name = child.1 ∧ ∀ place ∈ keyPlaces,
    Occurs (place.lines field) (pairText owner) ∧
      Occurs (place.keyed (Literal.bare child.1)) (place.lines field)
  same_iff : Literal.bare child.1 = Literal.encode child.1 ↔
    child.1.toList.all Literal.isPlain = true
  schema_key_read : ∀ after, Literal.read? (Literal.encode child.1 ++ after) = some (child.1, after)
  pair_key_read_iff : ∀ after,
    Literal.read? (Literal.bare child.1 ++ after) = some (child.1, after) ↔
      child.1.toList.all Literal.standsForItself = true

theorem hasKeys {owner : String × NestedObject Node} {child : String × Node}
    (h : child ∈ owner.2.children) : HasKeys owner child where
  schema_key := child.2.schema_eq_key child.1
  pair_keys := by
    obtain ⟨field, hfield, hname⟩ := exists_fieldText owner h
    refine ⟨field, hfield, hname, fun place hplace => ⟨?_, ?_⟩⟩
    · exact (occurs_eachField place.lines hfield).trans (occurs_lines owner hplace)
    · rw [← hname]
      exact occurs_key hplace field
  same_iff := Literal.bare_eq_encode_iff
  schema_key_read := Literal.read?_encode child.1
  pair_key_read_iff _ := Literal.read?_bare_iff

/-- **Keys.**  In every pair of a tree and for every child of the pair's object, the key at each of the
five places is the child's name between quotes, where the schema has the name's literal.  The two are the
same exactly if nothing in the name is to be escaped.  The schema's key is always read as the name, and
that of the pair exactly if each character of the name stands for itself. -/
theorem keys_of_pairs (node : Node) (name : String) :
    ∃ text, node.typePairs name = .ok text ∧ ∀ owner ∈ typeOwners (node.walk name),
      owner.2.typePair owner.1 = .ok (pairText owner) ∧ Occurs (pairText owner) text ∧
        ∀ child ∈ owner.2.children, HasKeys owner child :=
  ⟨_, node.typePairs_eq_join name, fun owner howner =>
    ⟨owner.2.typePair_eq_print owner.1, occurs_join (List.mem_map_of_mem howner),
      fun _ hchild => hasKeys hchild⟩⟩

/-- An object with an attribute that is a string. -/
def stringOwner (key : String) : Attribute :=
  .mk "rule" (.single { mode := .optional } none [.mk key (.leaf (.string { mode := .optional }))])

def stringOwnerNode (key : String) : Node :=
  .nested .singleAttribute
    { mode := some .optional, planModifiers := ⟨.object, []⟩, validators := ⟨.object, []⟩ }
    { attributes := [(key, .scalar .string
        { mode := some .optional
          planModifiers := ⟨.scalar .string, []⟩
          validators := ⟨.scalar .string, []⟩ })] }

theorem build_stringOwner (key : String) : (stringOwner key).build = .ok (stringOwnerNode key) :=
  (stringOwner key).build_eq.trans rfl

/-- In a name of letters and a joint nothing is to be escaped. -/
theorem keys_of_pairs_port :
    ∃ text, (stringOwnerNode "host_port").typePairs "rule" = .ok text ∧
      ∀ place ∈ keyPlaces, Occurs (place.keyed (Literal.encode "host_port")) text := by
  obtain ⟨text, htext, howners⟩ := keys_of_pairs (stringOwnerNode "host_port") "rule"
  obtain ⟨-, hpair, hkeys⟩ := howners ("rule", _) (.head _)
  obtain ⟨field, -, -, hplaces⟩ := (hkeys ("host_port", _) (.head _)).pair_keys
  have hsame := (hkeys ("host_port", _) (.head _)).same_iff.mpr (by decide)
  refine ⟨text, htext, fun place hplace => ?_⟩
  obtain ⟨hlines, hkey⟩ := hplaces place hplace
  rw [← hsame]
  exact (hkey.trans hlines).trans hpair

/-- A quote in a name is escaped in the schema.  In the pair it is not, and the literal there ends at
that quote. -/
theorem quote_ends_key :
    (stringOwner "a\"b").build = .ok (stringOwnerNode "a\"b") ∧
    (∃ child ∈ (stringOwnerNode "a\"b").children, child.1 = "a\"b" ∧
      ∃ rest, child.2.schema child.1 = "\"a\\\"b\": schema." ++ rest) ∧
    ∃ text, (stringOwnerNode "a\"b").typePairs "rule" = .ok text ∧
      (∀ place ∈ keyPlaces, Occurs (place.keyed "\"a\"b\"") text) ∧
      "\"a\"b\"" ≠ Literal.encode "a\"b" ∧
      Literal.read? "\"a\"b\"" = some ("a", "b\"") := by
  have hkeys : ∀ child ∈ (stringOwnerNode "a\"b").children, HasKeys ("rule", _) child :=
    fun _ h => hasKeys h
  obtain ⟨rest, hschema⟩ := (hkeys _ (.head _)).schema_key
  obtain ⟨field, -, -, hplaces⟩ := (hkeys _ (.head _)).pair_keys
  refine ⟨build_stringOwner _, ⟨_, .head _, rfl, rest, ?_⟩, _,
    (stringOwnerNode "a\"b").typePairs_eq_join "rule", fun place hplace => ?_, by decide, by decide⟩
  · exact hschema
  · obtain ⟨hlines, hkey⟩ := hplaces place hplace
    exact (hkey.trans hlines).trans (occurs_join (List.mem_map_of_mem (.head _)))

end ProviderCode
