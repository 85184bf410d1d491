import ProviderCode.Proofs.SchemaPackages
import ProviderCode.Proofs.SectionSources

/-!
# Packages that templates use

Type pairs and adapters use fixed sets of packages, whatever object they are made for: those of the
texts of their templates, among which are the packages of the types of fields.
-/

namespace ProviderCode

variable {allowed : Package → Prop}

/-! ### Type pairs -/

/-- The packages that type pairs use. -/
def typePairUses : List Package := [.context, .fmt, .attr, .types, .basetypes, .diag, .tftypes]

namespace Template

theorem textsOf_append (a b : List Piece) : textsOf (a ++ b) = textsOf a ++ textsOf b := by
  induction a with
  | nil => rfl
  | cons piece a ih => rw [List.cons_append, textsOf, textsOf, ih, List.append_assoc]

theorem within_objectType : ∀ text ∈ textsOf objectType.pieces,
    (Chunk.fixed text).Within (· ∈ typePairUses) := by
  simp only [objectType, textsOf_append, List.forall_mem_append]
  and_intros
  all_goals
    simp only [ObjectType.assertion, ObjectType.declaration, ObjectType.equal, ObjectType.string,
      ObjectType.valueFromObject, ObjectType.valueFromTerraform, ObjectType.valueType, name, field,
      textsOf, textsOfPiece, List.cons_append, List.nil_append, List.forall_mem_cons,
      List.not_mem_nil, false_imp_iff, implies_true, and_true]
    and_intros
    all_goals exact .fixed (by decide +kernel) fun _ h => h

theorem within_objectValue : ∀ text ∈ textsOf objectValue.pieces,
    (Chunk.fixed text).Within (· ∈ typePairUses) := by
  simp only [objectValue, textsOf_append, List.forall_mem_append]
  and_intros
  all_goals
    simp only [ObjectValue.assertion, ObjectValue.declaration, ObjectValue.nullValue,
      ObjectValue.unknownValue, ObjectValue.toTerraformValue, ObjectValue.isNull,
      ObjectValue.isUnknown, ObjectValue.string, ObjectValue.toObjectValue, ObjectValue.equal,
      ObjectValue.type, ObjectValue.attributeTypes, name, field, ofCollection, textsOf,
      textsOfPiece, List.cons_append, List.nil_append, List.append_nil, List.forall_mem_cons,
      List.not_mem_nil, false_imp_iff, implies_true, and_true]
    and_intros
    all_goals exact .fixed (by decide +kernel) fun _ h => h

/-- A template whose texts use allowed packages uses no others, if its context does not. -/
theorem within_trace {template : Template} {context : Slot}
    (htexts : ∀ text ∈ textsOf template.pieces, (Chunk.fixed text).Within allowed)
    (hcontext : context.Within allowed) : (template.trace context).Within allowed :=
  within_tracePieces ⟨fun _ h => absurd h List.not_mem_nil, hcontext⟩ htexts

end Template

namespace FieldDescriptor

/-- A field whose sources use allowed packages only. -/
structure Within (allowed : Package → Prop) (field : FieldDescriptor) : Prop where
  valueType : field.valueType.Within allowed
  attributeType : field.attributeType.Within allowed
  collection : ∀ c, field.collection = some c → c.elementType.Within allowed

theorem Within.slot {field : FieldDescriptor} (h : field.Within allowed) :
    field.slot.Within allowed := by
  have hname : (Slot.source [.name field.pascal]).Within allowed ∧
      (Slot.source [.name field.camel]).Within allowed :=
    ⟨.source (by simp), .source (by simp)⟩
  refine .record (List.forall_mem_append.mpr ⟨?_, ?_⟩)
  · simp only [List.forall_mem_cons, List.not_mem_nil, false_imp_iff, implies_true, and_true]
    exact ⟨Slot.within_verbatim _, hname.1, hname.2, .source h.valueType, .source h.attributeType⟩
  · cases hc : field.collection with
    | none => exact fun _ hmem => absurd hmem List.not_mem_nil
    | some c =>
      have hkind : (Chunk.fixed c.shape.framework).Within allowed := by
        cases c.shape <;> exact .plain (by decide)
      simp only [Option.map_some, Option.toList_some, List.forall_mem_cons, List.not_mem_nil,
        false_imp_iff, implies_true, and_true]
      refine .record ?_
      simp only [List.forall_mem_cons, List.not_mem_nil, false_imp_iff, implies_true, and_true]
      exact ⟨.source (Source.within_cons.mpr ⟨hkind, Source.within_nil⟩), .source (h.collection c hc)⟩

end FieldDescriptor

/-- The field that a node is uses packages of type pairs. -/
theorem Node.within_fieldDescriptor (name : String) (node : Node) :
    (node.fieldDescriptor name).Within (· ∈ typePairUses) := by
  have hverbatim : ∀ text, Source.Within (· ∈ typePairUses) [.verbatim text] := fun _ => by simp
  have hbase : Package.basetypes ∈ typePairUses := by decide
  have helement : ∀ element : ElementType, element.expression.Within (· ∈ typePairUses) := by
    refine fun element => ElementType.within_expression fun p hp => ?_
    rcases hp.types_or_attr with rfl | rfl <;> decide
  have hmap : ∀ types, (AttributeTypes.expression types).Within (· ∈ typePairUses) := by
    refine fun types => AttributeTypes.within_expression fun p hp => ?_
    rcases hp.types_or_attr with rfl | rfl <;> decide
  have hvalue : IsName (node.kind.valueKind.framework ++ "Value") :=
    node.kind.valueKind.isName_framework.append (by decide)
  refine ⟨?_, ?_, ?_⟩
  · simp only [fieldDescriptor]
    split
    · exact hverbatim _
    · exact Source.within_cons.mpr ⟨.qualified hbase hvalue, Source.within_nil⟩
  · simp only [fieldDescriptor]
    split
    · exact hverbatim _
    · cases node with
      | scalar type f =>
        have hmember : IsName (type.framework ++ "Type") := type.isName_framework.append (by decide)
        simp only [basetype, Source.within_cons]
        exact ⟨.qualified hbase hmember, .plain (by decide), Source.within_nil⟩
      | collection shape f element =>
        have hmember : IsName (shape.framework ++ "Type") := shape.isName_framework.append (by decide)
        simp only [basetype, Source.within_enclose, Source.within_cons]
        exact ⟨⟨.qualified hbase hmember, .plain (by decide), Source.within_nil⟩, helement element,
          .plain (by decide), Source.within_nil⟩
      | object f types =>
        simp only [basetype, Source.within_enclose, Source.within_cons]
        exact ⟨⟨.qualified hbase (by decide), .plain (by decide), Source.within_nil⟩, hmap types,
          .plain (by decide), Source.within_nil⟩
      | nested kind f body =>
        have hmember : IsName (kind.valueKind.framework ++ "Type") :=
          kind.valueKind.isName_framework.append (by decide)
        rw [basetype]
        split
        · simp only [Source.within_cons]
          exact ⟨.qualified hbase (by decide), .plain (by decide), .name _, .plain (by decide),
            Source.within_nil⟩
        · simp only [Source.within_enclose, Source.within_cons]
          refine ⟨⟨.qualified hbase hmember, .plain (by decide), Source.within_nil⟩, ?_,
            .plain (by decide), Source.within_nil⟩
          cases body.customType with
          | some custom => exact hverbatim _
          | none => exact Source.within_cons.mpr ⟨.name _, Source.within_cons.mpr
              ⟨.plain (by decide), Source.within_nil⟩⟩
  · intro c hc
    cases node with
    | collection shape f element =>
      simp only [fieldDescriptor, fieldCollection?] at hc
      split at hc
      · cases hc
        exact helement element
      · cases hc
    | _ => cases hc

/-- A type pair uses the packages of type pairs. -/
theorem NestedObject.within_typePairSource (name : String) (object : NestedObject Node) :
    (object.typePairSource name).Within (· ∈ typePairUses) := by
  have hfields : ∀ slot ∈ object.fieldDescriptors.map FieldDescriptor.slot,
      slot.Within (· ∈ typePairUses) := by
    intro slot hslot
    obtain ⟨field, hfield, rfl⟩ := List.mem_map.mp hslot
    obtain ⟨child, -, rfl⟩ := NestedObject.exists_child_of_field hfield
    exact (child.2.within_fieldDescriptor child.1).slot
  have hcontext : (object.slot name).Within (· ∈ typePairUses) := by
    refine .record ?_
    simp only [List.forall_mem_cons, List.not_mem_nil, false_imp_iff, implies_true, and_true]
    exact ⟨.source (by simp), .list hfields⟩
  exact Source.within_append.mpr ⟨Template.within_trace Template.within_objectType hcontext,
    Template.within_trace Template.within_objectValue hcontext⟩

/-! ### Adapters -/

/-- The packages that adapters use. -/
def adapterUses : List Package := [.context, .attr, .types, .diag]

namespace Template

theorem within_adapters : ∀ text ∈ textsOf adapters.pieces,
    (Chunk.fixed text).Within (· ∈ adapterUses) := by
  simp only [adapters, textsOf_append, List.forall_mem_append]
  and_intros
  all_goals
    simp only [Adapters.toExternal, Adapters.fromExternal, name, field, textsOf, textsOfPiece,
      List.cons_append, List.nil_append, List.append_nil, List.forall_mem_cons, List.not_mem_nil,
      false_imp_iff, implies_true, and_true]
    and_intros
    all_goals exact .fixed (by decide +kernel) fun _ h => h

end Template

theorem Conversion.within_slot (c : Conversion) : c.slot.Within allowed := by
  have hcommon : (Slot.source [.name (Name.pascal c.name)]).Within allowed ∧
      (Slot.source [.name (Name.camel c.name)]).Within allowed :=
    ⟨.source (by simp), .source (by simp)⟩
  have hnothing : (Slot.source []).Within allowed := .source Source.within_nil
  cases h : c.exchange with
  | scalar type wrapper =>
    have hword : ∀ {text : String}, (Chunk.fixed text).Within allowed →
        (Slot.source [.fixed text]).Within allowed := fun h =>
      .source (Source.within_cons.mpr ⟨h, Source.within_nil⟩)
    have hplain : ∀ {text : String}, fits [] text.toList = true →
        (Chunk.fixed text).Within allowed := fun h =>
      .fitting h fun _ hp => absurd hp List.not_mem_nil
    have hto : (Chunk.fixed type.toMethod).Within allowed := hplain (by cases type <;> decide)
    have hfrom : (Chunk.fixed type.fromFunction).Within allowed := hplain (by cases type <;> decide)
    have hbase : (Chunk.fixed type.framework).Within allowed := hplain (by cases type <;> decide)
    have hwrapper : ∀ member ∈ (wrapper.map fun w =>
        ("custom_value_type", Slot.source [.verbatim w])).toList, member.2.Within allowed := by
      cases wrapper with
      | none => exact fun _ hmem => absurd hmem List.not_mem_nil
      | some w =>
        intro member hmember
        obtain rfl := List.mem_singleton.mp hmember
        exact Slot.within_verbatim w
    simp only [slot, h]
    refine .record ?_
    simp only [List.forall_mem_append, List.forall_mem_cons, List.not_mem_nil, false_imp_iff,
      implies_true, and_true]
    exact ⟨⟨⟨⟨Slot.within_verbatim _, hcommon⟩, .flag _, hword hto, hword hfrom, hword hbase⟩,
      hwrapper⟩, hnothing, hnothing⟩
  | object suffix =>
    simp only [slot, h]
    refine .record ?_
    simp only [List.forall_mem_append, List.forall_mem_cons, List.not_mem_nil, false_imp_iff,
      implies_true, and_true]
    exact ⟨⟨Slot.within_verbatim _, hcommon⟩, .flag _, hnothing, hnothing, hnothing, hcommon.1,
      .source (by simp)⟩

/-- A pair of adapters uses the packages of adapters. -/
theorem Adapter.within_source (adapter : Adapter) : adapter.source.Within (· ∈ adapterUses) := by
  have hzero : adapter.external.zeroSource.Within (· ∈ adapterUses) := by
    unfold ExternalType.zeroSource
    split
    · exact Source.within_cons.mpr ⟨.plain (by decide), Source.within_nil⟩
    · exact Source.within_cons.mpr ⟨.verbatim _, Source.within_cons.mpr
        ⟨.plain (by decide), Source.within_nil⟩⟩
  have hfields : ∀ slot ∈ adapter.fields.map Conversion.slot, slot.Within (· ∈ adapterUses) := by
    intro slot hslot
    obtain ⟨c, -, rfl⟩ := List.mem_map.mp hslot
    exact c.within_slot
  refine Template.within_trace Template.within_adapters (.record ?_)
  simp only [List.forall_mem_cons, List.not_mem_nil, false_imp_iff, implies_true, and_true]
  exact ⟨.source (by simp), Slot.within_verbatim _, Slot.within_verbatim _, .flag _, .source hzero,
    .source (by simp), .list hfields⟩

end ProviderCode
