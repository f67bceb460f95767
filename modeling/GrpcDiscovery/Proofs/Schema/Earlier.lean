import GrpcDiscovery.Proofs.Schema.Unfolding

namespace GrpcDiscovery

/-!
# Schemas of an earlier index

While an index is extended, the messages in it keep their fields and the enums
their values, but types join them to which a field may have referred all along. So
what an earlier index gives as the schema of a message is what the later one gives,
cut off at every reference to a type that was not indexed then.
-/

mutual

/-- A message schema in which references to types that an index lacks are unresolved. -/
def MessageSchema.restrictTo
    (index : TypeIndex) :
    MessageSchema →
    MessageSchema
  | ⟨name, fullName, fields, wellKnown⟩ =>
      ⟨name, fullName, FieldSchema.listRestrictTo index fields, wellKnown⟩

/-- Fields in which references to types that an index lacks are unresolved. -/
def FieldSchema.listRestrictTo
    (index : TypeIndex) :
    List FieldSchema →
    List FieldSchema
  | [] =>
      []
  | ⟨descriptor, none⟩ :: rest =>
      ⟨descriptor, none⟩ :: FieldSchema.listRestrictTo index rest
  | ⟨descriptor, some nested⟩ :: rest =>
      ⟨descriptor, some (nested.restrictTo index)⟩ :: FieldSchema.listRestrictTo index rest

/-- What a reference leads to, as far as an index has the types; every index has the well-known. -/
def NestedSchema.restrictTo
    (index : TypeIndex) :
    NestedSchema →
    NestedSchema
  | .message schema =>
      if schema.wellKnown = none ∧ index.message? schema.fullName = none then
        .unresolved
      else
        .message (schema.restrictTo index)
  | .enum schema =>
      if index.enum? schema.fullName = none then
        .unresolved
      else
        .enum schema
  | .unresolved =>
      .unresolved

end

theorem FieldSchema.listRestrictTo_eq_map
    (index : TypeIndex)
    (fields : List FieldSchema) :
    FieldSchema.listRestrictTo index fields =
      fields.map fun field => ⟨field.descriptor, field.nested.map (·.restrictTo index)⟩ := by
  induction fields with
  | nil =>
      rw [listRestrictTo, List.map_nil]
  | cons field rest inductionHypothesis =>
      obtain ⟨descriptor, nested⟩ := field
      cases nested with
      | none =>
          rw [listRestrictTo, inductionHypothesis]
          rfl
      | some nested =>
          rw [listRestrictTo, inductionHypothesis]
          rfl

/-- A well-known type has the same schema for every index. -/
theorem MessageSchema.restrictTo_ofWellKnown
    (index : TypeIndex)
    (type : WellKnownType) :
    (ofWellKnown type).restrictTo index = ofWellKnown type := by
  cases type <;>
    simp [ofWellKnown, ofWellKnownFields, wellKnownFields, secondsAndNanos, wrapped,
      listValueItems, FieldSchema.plain, restrictTo, FieldSchema.listRestrictTo,
      NestedSchema.restrictTo]

namespace TypeIndex

/-- What a reference to a message leads to, given the schema of that message if there is one. -/
def leadingTo (schema : Option MessageSchema) : NestedSchema :=
  (schema.map NestedSchema.message).getD .unresolved

variable {index later : TypeIndex}

/-- A schema is that of a well-known type, or else it is under the name that was asked for. -/
theorem messageSchema?_cases
    {depth : Nat}
    {name : String}
    {schema : MessageSchema}
    (found : index.messageSchema? depth name = some schema) :
    (WellKnownType.ofName? name ≠ none ∧ schema.wellKnown ≠ none) ∨
      (WellKnownType.ofName? name = none ∧ schema.wellKnown = none ∧
        schema.fullName = name) := by
  cases depth with
  | zero =>
      cases found
  | succ depth =>
      rw [messageSchema?] at found
      cases wellKnown : WellKnownType.ofName? name with
      | some type =>
          rw [schemaFrom?_of_wellKnown _ _ wellKnown] at found
          obtain rfl := Option.some.inj found
          exact .inl ⟨Option.some_ne_none type, Option.some_ne_none type⟩
      | none =>
          rw [schemaFrom?_of_ordinary _ _ wellKnown] at found
          obtain ⟨descriptor, _, rfl⟩ := Option.map_eq_some_iff.mp found
          exact .inr ⟨rfl, rfl, rfl⟩

/-- A message that is neither well-known nor indexed has no schema. -/
theorem messageSchema?_eq_none
    {name : String}
    (ordinary : WellKnownType.ofName? name = none)
    (missing : index.message? name = none)
    (depth : Nat) :
    index.messageSchema? depth name = none := by
  cases depth with
  | zero =>
      rfl
  | succ depth =>
      rw [messageSchema?, schemaFrom?_of_ordinary _ _ ordinary, missing, Option.map_none]

/--
A reference leads to what the later index gives, as far as the earlier one has it.

This needs the schema to be like that only where the earlier index has the message.
-/
theorem leadingTo_messageSchema?
    {depth : Nat}
    {name : String}
    (restricted : WellKnownType.ofName? name ≠ none ∨ index.message? name ≠ none →
      index.messageSchema? depth name =
        (later.messageSchema? depth name).map (·.restrictTo index)) :
    leadingTo (index.messageSchema? depth name) =
      (leadingTo (later.messageSchema? depth name)).restrictTo index := by
  by_cases known : WellKnownType.ofName? name ≠ none ∨ index.message? name ≠ none
  · rw [restricted known]
    cases found : later.messageSchema? depth name with
    | none =>
        simp only [leadingTo, Option.map_none, Option.getD_none, NestedSchema.restrictTo]
    | some schema =>
        have kept : ¬ (schema.wellKnown = none ∧ index.message? schema.fullName = none) := by
          rintro ⟨ordinary, missing⟩
          rcases messageSchema?_cases found with ⟨_, wellKnown⟩ | ⟨unknown, _, rfl⟩
          · exact wellKnown ordinary
          · exact known.elim (absurd unknown) (absurd missing)
        simp only [leadingTo, Option.map_some, Option.getD_some, NestedSchema.restrictTo,
          if_neg kept]
  · rw [not_or, not_not, not_not] at known
    rw [messageSchema?_eq_none known.1 known.2]
    cases found : later.messageSchema? depth name with
    | none =>
        simp only [leadingTo, Option.map_none, Option.getD_none, NestedSchema.restrictTo]
    | some schema =>
        have cut : schema.wellKnown = none ∧ index.message? schema.fullName = none := by
          rcases messageSchema?_cases found with ⟨wellKnown, _⟩ | ⟨_, ordinary, rfl⟩
          · exact absurd known.1 wellKnown
          · exact ⟨ordinary, known.2⟩
        simp only [leadingTo, Option.map_some, Option.map_none, Option.getD_some,
          Option.getD_none, NestedSchema.restrictTo, if_pos cut]

/-- The schema of an enum stays as it was while an index is extended. -/
theorem enumSchema?_of_extends
    (extension : later.Extends index)
    (plain : index.HasPlainNames)
    (plainLater : later.HasPlainNames)
    {name : String}
    {schema : EnumSchema}
    (found : index.enumSchema? name = some schema) :
    later.enumSchema? name = some schema := by
  obtain ⟨descriptor, indexed, rfl⟩ := Option.map_eq_some_iff.mp found
  obtain ⟨other, indexedLater, sameValues⟩ := extension.enums _ descriptor indexed
  have sameName := plainLater.enum_name_eq plain indexedLater indexed
  rw [enumSchema?, indexedLater, Option.map_some, EnumSchema.ofDescriptor,
    EnumSchema.ofDescriptor, sameValues, sameName]

/-- A reference to an enum leads to what the later index gives, if the earlier one has it. -/
theorem enumReference_restrictTo
    (extension : later.Extends index)
    (plain : index.HasPlainNames)
    (plainLater : later.HasPlainNames)
    {name : String}
    (reference : TypeName.HasOneDotAtMost name) :
    ((index.enumSchema? name).map NestedSchema.enum).getD .unresolved =
      (((later.enumSchema? name).map NestedSchema.enum).getD .unresolved).restrictTo index := by
  have normal := TypeName.normalize_normalize reference
  cases found : index.enumSchema? name with
  | some schema =>
      obtain ⟨descriptor, indexed, rfl⟩ := Option.map_eq_some_iff.mp found
      have kept : index.enum? (TypeName.normalize name) ≠ none := by
        rw [enum?, normal, indexed]
        exact Option.some_ne_none descriptor
      rw [enumSchema?_of_extends extension plain plainLater found, Option.map_some,
        Option.getD_some, NestedSchema.restrictTo, EnumSchema.ofDescriptor, if_neg kept]
  | none =>
      have missing := Option.map_eq_none_iff.mp found
      cases foundLater : later.enumSchema? name with
      | none =>
          simp only [Option.map_none, Option.getD_none, NestedSchema.restrictTo]
      | some schema =>
          obtain ⟨descriptor, _, rfl⟩ := Option.map_eq_some_iff.mp foundLater
          have cut : index.enum? (TypeName.normalize name) = none := by
            rw [enum?, normal, missing]
          rw [Option.map_some, Option.getD_some, NestedSchema.restrictTo,
            EnumSchema.ofDescriptor, if_pos cut, Option.map_none, Option.getD_none]

/-- What a field refers to is what the later index gives, as far as the earlier one has it. -/
theorem reference?_restrictTo
    (extension : later.Extends index)
    (plain : index.HasPlainNames)
    (plainLater : later.HasPlainNames)
    {below laterBelow : String → Option MessageSchema}
    (restricted : ∀ name,
      leadingTo (below name) = (leadingTo (laterBelow name)).restrictTo index)
    {field : FieldDescriptor}
    (reference : ∀ typeName, field.typeName = some typeName →
      TypeName.HasOneDotAtMost typeName) :
    index.reference? below field =
      (later.reference? laterBelow field).map (·.restrictTo index) := by
  rw [reference?, reference?]
  cases kind : field.type.jsonKind with
  | enumString =>
      cases refers : field.typeName with
      | none =>
          simp only [Option.map_some, NestedSchema.restrictTo]
      | some typeName =>
          simp only [Option.map_some]
          rw [enumReference_restrictTo extension plain plainLater (reference typeName refers)]
  | object =>
      cases refers : field.typeName with
      | none =>
          simp only [Option.map_some, NestedSchema.restrictTo]
      | some typeName =>
          cases wellKnown : WellKnownType.ofName? typeName with
          | some type =>
              have kept : ¬ ((MessageSchema.ofWellKnown type).wellKnown = none ∧
                  index.message? (MessageSchema.ofWellKnown type).fullName = none) :=
                fun missing => Option.some_ne_none type missing.1
              simp only [wellKnown, Option.map_some, NestedSchema.restrictTo, if_neg kept,
                MessageSchema.restrictTo_ofWellKnown]
          | none =>
              simp only [wellKnown]
              exact congrArg some (restricted (TypeName.normalize typeName))
  | _ =>
      cases field.typeName <;> rfl

/--
The schema that an earlier index gives of a message that it has is the one of the
later index, restricted to the types that were indexed then; by induction on the depth.
-/
theorem messageSchema?_restrictTo
    (extension : later.Extends index)
    (plain : index.HasPlainNames)
    (plainLater : later.HasPlainNames)
    (depth : Nat)
    {name : String}
    (known : WellKnownType.ofName? name ≠ none ∨ index.message? name ≠ none) :
    index.messageSchema? depth name =
      (later.messageSchema? depth name).map (·.restrictTo index) := by
  induction depth generalizing name with
  | zero =>
      rfl
  | succ depth inductionHypothesis =>
      rw [messageSchema?, messageSchema?]
      cases wellKnown : WellKnownType.ofName? name with
      | some type =>
          rw [schemaFrom?_of_wellKnown _ _ wellKnown, schemaFrom?_of_wellKnown _ _ wellKnown,
            Option.map_some, MessageSchema.restrictTo_ofWellKnown]
      | none =>
          have indexed := known.resolve_left (not_not.mpr wellKnown)
          obtain ⟨descriptor, found⟩ := Option.ne_none_iff_exists'.mp indexed
          obtain ⟨other, foundLater, sameFields⟩ := extension.messages _ descriptor found
          have sameName := plainLater.message_name_eq plain foundLater found
          have fields : descriptor.fields.map
                (fun field => FieldSchema.mk field
                  (index.reference? (index.messageSchema? depth) field)) =
              descriptor.fields.map (fun field => FieldSchema.mk field
                ((later.reference? (later.messageSchema? depth) field).map
                  (·.restrictTo index))) := by
            refine List.map_congr_left fun field member => ?_
            rw [reference?_restrictTo extension plain plainLater
              (fun _ => leadingTo_messageSchema? inductionHypothesis)
              fun typeName refers => plain.reference found member refers]
          have foundAlso : later.message? name = some other := foundLater
          rw [schemaFrom?_of_ordinary _ _ wellKnown, schemaFrom?_of_ordinary _ _ wellKnown,
            found, foundAlso, Option.map_some, Option.map_some, Option.map_some, schemaOf,
            schemaOf, MessageSchema.restrictTo, FieldSchema.listRestrictTo_eq_map,
            List.map_map, sameFields, sameName, fields]
          rfl

end TypeIndex

end GrpcDiscovery
