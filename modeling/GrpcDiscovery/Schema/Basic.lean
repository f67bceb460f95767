import GrpcDiscovery.Descriptor.Basic

namespace GrpcDiscovery

/-!
# Schemas

A schema is a message type with its references followed: a field that refers to
another message or to an enum carries that type's schema. A reference stays
unresolved when the type is not known or the depth is used up.
-/

/-- The kind of JSON value that a field type maps to. -/
inductive JsonKind where
  | number
  | boolean
  | string
  | object
  | enumString
  /-- Any value, for types without a meaning. -/
  | any
deriving DecidableEq, Repr

/-- The name of a kind in messages. -/
def JsonKind.describe : JsonKind → String
  | .number =>
      "number"
  | .boolean =>
      "boolean"
  | .string =>
      "string"
  | .object =>
      "object"
  | .enumString =>
      "enum"
  | .any =>
      "any"

/-- The kind of JSON value that a field type maps to. -/
def FieldType.jsonKind : FieldType → JsonKind
  | .bool =>
      .boolean
  | .string =>
      .string
  | .bytes =>
      .string
  | .group =>
      .object
  | .message =>
      .object
  | .enum =>
      .enumString
  | .unknown _ =>
      .any
  | _ =>
      .number

/-- The `google.protobuf` types that JSON renders in a way of their own. -/
inductive WellKnownType where
  | timestamp
  | duration
  | empty
  | fieldMask
  | struct
  | value
  | listValue
  | any
  | doubleValue
  | floatValue
  | int64Value
  | uint64Value
  | int32Value
  | uint32Value
  | boolValue
  | stringValue
  | bytesValue
deriving DecidableEq, Repr

/-- A value of an enum. -/
structure EnumValue where
  name : String
  number : Int32
deriving DecidableEq, Repr

/-- An enum type. -/
structure EnumSchema where
  name : String
  fullName : String
  values : List EnumValue
deriving DecidableEq, Repr

mutual

/-- A message type with its fields resolved. -/
structure MessageSchema where
  name : String
  fullName : String
  fields : List FieldSchema
  wellKnown : Option WellKnownType

/-- A field with what its type refers to. -/
structure FieldSchema where
  descriptor : FieldDescriptor
  nested : Option NestedSchema

/-- What a reference to a type leads to. -/
inductive NestedSchema where
  | message (schema : MessageSchema)
  | enum (schema : EnumSchema)
  /-- The type is not known, or lies deeper than was asked for. -/
  | unresolved

end

/-- A message type or an enum type. -/
inductive ResolvedSchema where
  | message (schema : MessageSchema)
  | enum (schema : EnumSchema)

/-- The schema of an enum, under the name by which it was referred to. -/
def EnumSchema.ofDescriptor
    (fullName : String)
    (descriptor : EnumDescriptor) :
    EnumSchema where
  name := descriptor.name
  fullName := fullName
  values := descriptor.values.map fun value => ⟨value.1, value.2⟩

/-- The name of the first value, and a stand-in for an enum without values. -/
def EnumSchema.defaultValueName (schema : EnumSchema) : String :=
  match schema.values with
  | [] =>
      "UNKNOWN"
  | first :: _ =>
      first.name

namespace FieldSchema

/-- The name of a field. -/
def name (field : FieldSchema) : String :=
  field.descriptor.name

/-- Whether a field holds a list of values. -/
def isRepeated (field : FieldSchema) : Bool :=
  field.descriptor.isRepeated

end FieldSchema

namespace MessageSchema

/-- The first field with a name, or else the first with it as its JSON name. -/
def field?
    (schema : MessageSchema)
    (key : String) :
    Option FieldSchema :=
  match schema.fields.find? (fun field => field.descriptor.name == key) with
  | some field =>
      some field
  | none =>
      schema.fields.find? fun field => field.descriptor.jsonName == key

/-- The names of the fields, in order. -/
def fieldNames (schema : MessageSchema) : List String :=
  schema.fields.map FieldSchema.name

end MessageSchema

end GrpcDiscovery
