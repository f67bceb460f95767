import GrpcDiscovery.Proofs.Index.Lookup
import GrpcDiscovery.Proofs.Schema.Unfolding

namespace GrpcDiscovery.TypeIndex

/-!
# Schemas of one index over another

What a lower index holds can show in a schema only through a reference that the
upper index has but cannot resolve. If there is none, the schemas of all messages
that the upper index refers to are those of the upper index alone.
-/

/-- The names of types to which the fields of messages and the methods of services refer. -/
def references (index : TypeIndex) : List String :=
  index.messages.toList.flatMap (fun entry => entry.2.fields.filterMap FieldDescriptor.typeName) ++
    index.services.toList.flatMap (fun entry => entry.2.methods.map MethodDescriptor.inputType)

theorem mem_references_of_field
    {index : TypeIndex}
    {name : String}
    {descriptor : MessageDescriptor}
    (found : index.message? name = some descriptor)
    {field : FieldDescriptor}
    (member : field ∈ descriptor.fields)
    {typeName : String}
    (refers : field.typeName = some typeName) :
    typeName ∈ index.references := by
  refine List.mem_append_left _ (List.mem_flatMap.mpr ⟨(TypeName.normalize name, descriptor), ?_, ?_⟩)
  · exact Std.TreeMap.mem_toList_iff_getElem?_eq_some.mpr found
  · exact List.mem_filterMap.mpr ⟨field, member, refers⟩

theorem mem_references_of_method
    {index : TypeIndex}
    {name : String}
    {descriptor : ServiceDescriptor}
    (found : index.service? name = some descriptor)
    {method : MethodDescriptor}
    (member : method ∈ descriptor.methods) :
    method.inputType ∈ index.references := by
  refine List.mem_append_right _ (List.mem_flatMap.mpr ⟨(TypeName.normalize name, descriptor), ?_, ?_⟩)
  · exact Std.TreeMap.mem_toList_iff_getElem?_eq_some.mpr found
  · exact List.mem_map_of_mem member

/--
A lower index resolves no reference that the upper one leaves unresolved.

Messages of well-known types do not count, for they are not looked up.
-/
def AddsNothingTo (lower upper : TypeIndex) : Prop :=
  ∀ name ∈ upper.references,
    (WellKnownType.ofName? name = none → upper.message? name = none →
      lower.message? name = none) ∧
    (upper.enum? name = none → lower.enum? name = none)

instance (lower upper : TypeIndex) : Decidable (lower.AddsNothingTo upper) :=
  inferInstanceAs (Decidable (∀ name ∈ upper.references, _ ∧ _))

variable {index upper lower : TypeIndex}

/-- A message to which the upper index refers is found there or nowhere. -/
theorem IsOver.message?_of_reference
    (isOver : index.IsOver upper lower)
    (adds : lower.AddsNothingTo upper)
    {name : String}
    (reference : name ∈ upper.references)
    (ordinary : WellKnownType.ofName? name = none) :
    index.message? name = upper.message? name := by
  rw [isOver.message?_eq]
  cases found : upper.message? name with
  | some descriptor =>
      rfl
  | none =>
      exact (adds name reference).1 ordinary found

theorem IsOver.enumSchema?_of_reference
    (isOver : index.IsOver upper lower)
    (adds : lower.AddsNothingTo upper)
    {name : String}
    (reference : name ∈ upper.references) :
    index.enumSchema? name = upper.enumSchema? name := by
  have found : index.enum? name = upper.enum? name := by
    rw [isOver.enum?_eq]
    cases found : upper.enum? name with
    | some descriptor =>
        rfl
    | none =>
        exact (adds name reference).2 found
  exact congrArg (Option.map (EnumSchema.ofDescriptor (TypeName.normalize name))) found

/-- What a field of the upper index refers to is what the upper index alone says. -/
theorem IsOver.reference?_eq
    (isOver : index.IsOver upper lower)
    (adds : lower.AddsNothingTo upper)
    {below upperBelow : String → Option MessageSchema}
    {field : FieldDescriptor}
    (references : ∀ typeName, field.typeName = some typeName → typeName ∈ upper.references)
    (same : ∀ typeName ∈ upper.references, WellKnownType.ofName? typeName = none →
      below (TypeName.normalize typeName) = upperBelow (TypeName.normalize typeName)) :
    index.reference? below field = upper.reference? upperBelow field := by
  rw [reference?, reference?]
  cases kind : field.type.jsonKind with
  | enumString =>
      cases refers : field.typeName with
      | none =>
          rfl
      | some typeName =>
          simp only [isOver.enumSchema?_of_reference adds (references typeName refers)]
  | object =>
      cases refers : field.typeName with
      | none =>
          rfl
      | some typeName =>
          cases wellKnown : WellKnownType.ofName? typeName with
          | some type =>
              simp only [wellKnown]
          | none =>
              simp only [wellKnown, same typeName (references typeName refers) wellKnown]
  | _ =>
      cases field.typeName <;> rfl

/-- The references of an index with plain names start with one dot at most. -/
theorem HasPlainNames.hasOneDotAtMost
    (plain : upper.HasPlainNames)
    {name : String}
    (reference : name ∈ upper.references) :
    TypeName.HasOneDotAtMost name := by
  rcases List.mem_append.mp reference with inMessage | inService
  · obtain ⟨⟨fullName, descriptor⟩, entry, inside⟩ := List.mem_flatMap.mp inMessage
    obtain ⟨field, member, refers⟩ := List.mem_filterMap.mp inside
    have held := Std.TreeMap.mem_toList_iff_getElem?_eq_some.mp entry
    exact (plain (.message fullName descriptor) held).2.2 field member name refers
  · obtain ⟨⟨fullName, descriptor⟩, entry, inside⟩ := List.mem_flatMap.mp inService
    obtain ⟨method, member, rfl⟩ := List.mem_map.mp inside
    have held := Std.TreeMap.mem_toList_iff_getElem?_eq_some.mp entry
    exact ((plain (.service fullName descriptor) held).2 method member).1

/--
The schema of a message that is found alike is that of the upper index, by induction
on the depth: every reference in it is one of the upper index.
-/
theorem IsOver.messageSchema?_eq
    (isOver : index.IsOver upper lower)
    (adds : lower.AddsNothingTo upper)
    (plain : upper.HasPlainNames)
    (depth : Nat)
    {name : String}
    (found : WellKnownType.ofName? name = none → index.message? name = upper.message? name) :
    index.messageSchema? depth name = upper.messageSchema? depth name := by
  induction depth generalizing name with
  | zero =>
      rfl
  | succ depth inductionHypothesis =>
      rw [messageSchema?, messageSchema?]
      cases wellKnown : WellKnownType.ofName? name with
      | some type =>
          rw [schemaFrom?_of_wellKnown _ _ wellKnown, schemaFrom?_of_wellKnown _ _ wellKnown]
      | none =>
          rw [schemaFrom?_of_ordinary _ _ wellKnown, schemaFrom?_of_ordinary _ _ wellKnown,
            found wellKnown]
          cases indexed : upper.message? name with
          | none =>
              rfl
          | some descriptor =>
              have below : ∀ typeName ∈ upper.references,
                  WellKnownType.ofName? typeName = none →
                  index.messageSchema? depth (TypeName.normalize typeName) =
                    upper.messageSchema? depth (TypeName.normalize typeName) := by
                intro typeName reference ordinary
                have normal := TypeName.normalize_normalize (plain.hasOneDotAtMost reference)
                apply inductionHypothesis
                intro _
                rw [message?, message?, normal]
                exact isOver.message?_of_reference adds reference ordinary
              have fields : descriptor.fields.map
                  (fun field => FieldSchema.mk field
                    (index.reference? (index.messageSchema? depth) field)) =
                descriptor.fields.map (fun field => FieldSchema.mk field
                    (upper.reference? (upper.messageSchema? depth) field)) := by
                refine List.map_congr_left fun field member => ?_
                rw [isOver.reference?_eq adds
                  (fun typeName refers => mem_references_of_field indexed member refers) below]
              rw [Option.map_some, Option.map_some, schemaOf, schemaOf, fields]

/-- The schema of a message to which the upper index refers is that of the upper index. -/
theorem IsOver.messageSchema?_of_reference
    (isOver : index.IsOver upper lower)
    (adds : lower.AddsNothingTo upper)
    (plain : upper.HasPlainNames)
    (depth : Nat)
    {name : String}
    (reference : name ∈ upper.references) :
    index.messageSchema? depth (TypeName.normalize name) =
      upper.messageSchema? depth (TypeName.normalize name) := by
  have normal := TypeName.normalize_normalize (plain.hasOneDotAtMost reference)
  apply isOver.messageSchema?_eq adds plain
  intro ordinary
  rw [WellKnownType.ofName?, normal] at ordinary
  rw [message?, message?, normal]
  exact isOver.message?_of_reference adds reference ordinary

end GrpcDiscovery.TypeIndex
