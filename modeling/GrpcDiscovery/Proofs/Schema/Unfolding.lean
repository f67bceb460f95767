import GrpcDiscovery.Proofs.Index.Names
import GrpcDiscovery.Schema.WellKnown

namespace GrpcDiscovery.TypeIndex

/-!
# The schemas that an index gives

An index alone says what the schema of a type is: the references of an indexed
message are followed down to a depth, and no cache comes into it. Messages that are
not indexed, and those that lie too deep, stay unresolved, while enums are found at
every depth.
-/

/-- The schema of an enum as an index has it. -/
def enumSchema?
    (index : TypeIndex)
    (name : String) :
    Option EnumSchema :=
  (index.enums[TypeName.normalize name]?).map
    (EnumSchema.ofDescriptor (TypeName.normalize name))

/-- What a field refers to, given the schemas of the messages below. -/
def reference?
    (index : TypeIndex)
    (below : String → Option MessageSchema)
    (field : FieldDescriptor) :
    Option NestedSchema :=
  match field.type.jsonKind, field.typeName with
  | .object, none =>
      some .unresolved
  | .enumString, none =>
      some .unresolved
  | .enumString, some typeName =>
      some (((index.enumSchema? typeName).map NestedSchema.enum).getD .unresolved)
  | .object, some typeName =>
      match WellKnownType.ofName? typeName with
      | some type =>
          some (.message (.ofWellKnown type))
      | none =>
          some (((below (TypeName.normalize typeName)).map NestedSchema.message).getD
            .unresolved)
  | _, _ =>
      none

/-- The schema of an indexed message under a name, given the schemas of those below. -/
def schemaOf
    (index : TypeIndex)
    (below : String → Option MessageSchema)
    (name : String)
    (descriptor : MessageDescriptor) :
    MessageSchema where
  name := descriptor.name
  fullName := name
  fields := descriptor.fields.map fun field => ⟨field, index.reference? below field⟩
  wellKnown := none

/-- The schema of a message, given the schemas of those below. -/
def schemaFrom?
    (index : TypeIndex)
    (below : String → Option MessageSchema)
    (name : String) :
    Option MessageSchema :=
  match WellKnownType.ofName? name with
  | some type =>
      some (.ofWellKnown type)
  | none =>
      (index.message? name).map (index.schemaOf below name)

/-- The schema of a message, in which no chain of messages is longer than the depth. -/
def messageSchema? (index : TypeIndex) : (depth : Nat) → (name : String) → Option MessageSchema
  | 0, _ =>
      none
  | depth + 1, name =>
      index.schemaFrom? (index.messageSchema? depth) name

/-! A well-known type has a schema of its own, and any other message that of its descriptor. -/

theorem schemaFrom?_of_wellKnown
    (index : TypeIndex)
    (below : String → Option MessageSchema)
    {name : String}
    {type : WellKnownType}
    (wellKnown : WellKnownType.ofName? name = some type) :
    index.schemaFrom? below name = some (.ofWellKnown type) := by
  simp only [schemaFrom?, wellKnown]

theorem schemaFrom?_of_ordinary
    (index : TypeIndex)
    (below : String → Option MessageSchema)
    {name : String}
    (ordinary : WellKnownType.ofName? name = none) :
    index.schemaFrom? below name =
      (index.message? name).map (index.schemaOf below name) := by
  simp only [schemaFrom?, ordinary]

end GrpcDiscovery.TypeIndex
