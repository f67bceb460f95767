import GrpcDiscovery.Schema.Basic
import GrpcDiscovery.TypeName

namespace GrpcDiscovery

/-!
# Well-known types

Seventeen types of the package `google.protobuf` have a fixed schema, whatever
descriptors a server sends. Most of them are rendered in JSON as a single value.
-/

namespace WellKnownType

/-- Every well-known type. -/
def all : List WellKnownType :=
  [.timestamp, .duration, .empty, .fieldMask, .struct, .value, .listValue, .any,
    .doubleValue, .floatValue, .int64Value, .uint64Value, .int32Value,
    .uint32Value, .boolValue, .stringValue, .bytesValue]

/-- The name of a type inside its package. -/
def shortName : WellKnownType → String
  | .timestamp =>
      "Timestamp"
  | .duration =>
      "Duration"
  | .empty =>
      "Empty"
  | .fieldMask =>
      "FieldMask"
  | .struct =>
      "Struct"
  | .value =>
      "Value"
  | .listValue =>
      "ListValue"
  | .any =>
      "Any"
  | .doubleValue =>
      "DoubleValue"
  | .floatValue =>
      "FloatValue"
  | .int64Value =>
      "Int64Value"
  | .uint64Value =>
      "UInt64Value"
  | .int32Value =>
      "Int32Value"
  | .uint32Value =>
      "UInt32Value"
  | .boolValue =>
      "BoolValue"
  | .stringValue =>
      "StringValue"
  | .bytesValue =>
      "BytesValue"

/-- The full name of a type. -/
def fullName (type : WellKnownType) : String :=
  "google.protobuf." ++ type.shortName

/-- The type of a short name. -/
def ofShortName? (name : String) : Option WellKnownType :=
  all.find? fun type => type.shortName == name

/-- The type of a full name, with or without the leading dot of a reference. -/
def ofName? (name : String) : Option WellKnownType :=
  all.find? fun type => type.fullName == TypeName.normalize name

/-- The kind of value that JSON renders a type as, where it is always the same. -/
def jsonKind? : WellKnownType → Option JsonKind
  | .timestamp =>
      some .string
  | .duration =>
      some .string
  | .fieldMask =>
      some .string
  | .stringValue =>
      some .string
  | .bytesValue =>
      some .string
  | .doubleValue =>
      some .number
  | .floatValue =>
      some .number
  | .int64Value =>
      some .number
  | .uint64Value =>
      some .number
  | .int32Value =>
      some .number
  | .uint32Value =>
      some .number
  | .boolValue =>
      some .boolean
  | .empty =>
      some .object
  | .struct =>
      some .object
  | .any =>
      some .object
  | .listValue =>
      none
  | .value =>
      none

end WellKnownType

/-- A field that refers to no other type. -/
def FieldSchema.plain
    (name : String)
    (number : Int32)
    (type : FieldType)
    (label : Label) :
    FieldSchema where
  descriptor := {
    name := name
    jsonName := name
    number := number
    type := type
    label := label
    typeName := none
    oneofIndex := none
  }
  nested := none

namespace MessageSchema

/-- The schema of a well-known type with the fields given. -/
def ofWellKnownFields
    (type : WellKnownType)
    (fields : List FieldSchema) :
    MessageSchema where
  name := type.shortName
  fullName := type.fullName
  fields := fields
  wellKnown := some type

/-- The items of a list value, each of which may be any value. -/
def listValueItems : FieldSchema where
  descriptor := {
    name := "values"
    jsonName := "values"
    number := 1
    type := .message
    label := .repeated
    typeName := some ("." ++ WellKnownType.value.fullName)
    oneofIndex := none
  }
  nested := some (.message (ofWellKnownFields .value []))

/-- The one field of a wrapper of a scalar. -/
def wrapped (type : FieldType) : List FieldSchema :=
  [.plain "value" 1 type .optional]

/-- The fields of a point in time or a span of it. -/
def secondsAndNanos : List FieldSchema :=
  [.plain "seconds" 1 .int64 .optional, .plain "nanos" 2 .int32 .optional]

/-- The fields of a well-known type; the free-form types have none. -/
def wellKnownFields : WellKnownType → List FieldSchema
  | .timestamp =>
      secondsAndNanos
  | .duration =>
      secondsAndNanos
  | .fieldMask =>
      [.plain "paths" 1 .string .repeated]
  | .listValue =>
      [listValueItems]
  | .empty =>
      []
  | .struct =>
      []
  | .value =>
      []
  | .any =>
      []
  | .doubleValue =>
      wrapped .double
  | .floatValue =>
      wrapped .float
  | .int64Value =>
      wrapped .int64
  | .uint64Value =>
      wrapped .uint64
  | .int32Value =>
      wrapped .int32
  | .uint32Value =>
      wrapped .uint32
  | .boolValue =>
      wrapped .bool
  | .stringValue =>
      wrapped .string
  | .bytesValue =>
      wrapped .bytes

/-- The schema of a well-known type. -/
def ofWellKnown (type : WellKnownType) : MessageSchema :=
  ofWellKnownFields type (wellKnownFields type)

end MessageSchema

end GrpcDiscovery
