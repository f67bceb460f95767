import GrpcDiscovery.Json.Value
import GrpcDiscovery.Schema.WellKnown

namespace GrpcDiscovery

/-!
# Schemas as JSON

A schema is written as an object with a member for each part. An absent optional
part is null for a field's type name and alternative, and is left out otherwise.
An enumeration is written by the name of its case; a case with a content is an
object with the name as its only key.

Reading takes the same form. Keys that mean nothing are passed over, and a record
other than a field may also be given as the array of its parts in order.
-/

/-- The name of a field type in JSON. -/
def FieldType.jsonName : FieldType → String
  | .double =>
      "DOUBLE"
  | .float =>
      "FLOAT"
  | .int64 =>
      "INT64"
  | .uint64 =>
      "UINT64"
  | .int32 =>
      "INT32"
  | .fixed64 =>
      "FIXED64"
  | .fixed32 =>
      "FIXED32"
  | .bool =>
      "BOOL"
  | .string =>
      "STRING"
  | .group =>
      "GROUP"
  | .message =>
      "MESSAGE"
  | .bytes =>
      "BYTES"
  | .uint32 =>
      "UINT32"
  | .enum =>
      "ENUM"
  | .sfixed32 =>
      "SFIXED32"
  | .sfixed64 =>
      "SFIXED64"
  | .sint32 =>
      "SINT32"
  | .sint64 =>
      "SINT64"
  | .unknown _ =>
      "UNKNOWN"

/-- The field types that have a meaning, in order of their codes. -/
def FieldType.known : List FieldType :=
  [.double, .float, .int64, .uint64, .int32, .fixed64, .fixed32, .bool, .string,
    .group, .message, .bytes, .uint32, .enum, .sfixed32, .sfixed64, .sint32,
    .sint64]

/-- The name of a label in JSON. -/
def Label.jsonName : Label → String
  | .optional =>
      "OPTIONAL"
  | .required =>
      "REQUIRED"
  | .repeated =>
      "REPEATED"

namespace SchemaJson

/-- A signed number of thirty-two bits. -/
def ofInt32 (value : Int32) : Json :=
  .int value.toInt

/-- A field type, with its code if that is all there is. -/
def ofFieldType : FieldType → Json
  | .unknown code =>
      .object [(FieldType.jsonName (.unknown code), ofInt32 code)]
  | type =>
      .string type.jsonName

/-- The members that describe a field. -/
def fieldMembers (field : FieldDescriptor) : List (String × Json) :=
  [("name", .string field.name),
    ("jsonName", .string field.jsonName),
    ("number", ofInt32 field.number),
    ("type", ofFieldType field.type),
    ("label", .string field.label.jsonName),
    ("typeName", .ofText? field.typeName),
    ("oneofIndex",
      match field.oneofIndex with
      | some index => ofInt32 index
      | none => .null)]

/-- A value of an enum. -/
def ofEnumValue (value : EnumValue) : Json :=
  .object
    [("name", .string value.name), ("number", ofInt32 value.number)]

/-- The members that describe an enum. -/
def enumMembers (schema : EnumSchema) : List (String × Json) :=
  [("name", .string schema.name),
    ("fullName", .string schema.fullName),
    ("values", .array (schema.values.map ofEnumValue))]

/-- The member that marks a well-known type. -/
def wellKnownMember : Option WellKnownType → List (String × Json)
  | some type =>
      [("wellKnown", .string type.shortName)]
  | none =>
      []

mutual

/-- A message schema. -/
def ofMessage (schema : MessageSchema) : Json :=
  match schema with
  | ⟨name, fullName, fields, wellKnown⟩ =>
      .object
        ([("name", .string name),
          ("fullName", .string fullName),
          ("fields", .array (ofFields fields))] ++
          wellKnownMember wellKnown)

/-- The fields of a message schema, in order. -/
def ofFields (fields : List FieldSchema) : List Json :=
  match fields with
  | [] =>
      []
  | field :: rest =>
      ofField field :: ofFields rest

/-- A field of a message schema. -/
def ofField (field : FieldSchema) : Json :=
  match field with
  | ⟨descriptor, nested⟩ =>
      .object
        (fieldMembers descriptor ++
          match nested with
          | some reference =>
              [("nested", ofNested reference)]
          | none =>
              [])

/-- What a field refers to. -/
def ofNested (reference : NestedSchema) : Json :=
  match reference with
  | .message schema =>
      .object [("message", ofMessage schema)]
  | .enum schema =>
      .object [("enum", .object (enumMembers schema))]
  | .unresolved =>
      .string "opaque"

end

/-- A text. -/
def text? : Json → Option String
  | .string text =>
      some text
  | _ =>
      none

/-- An integer within thirty-two signed bits. -/
def int32? : Json → Option Int32
  | .number (.integer value) =>
      if -2147483648 ≤ value ∧ value ≤ 2147483647 then
        some (Int32.ofInt value)
      else
        none
  | _ =>
      none

/-- A part that may be missing or null. -/
def optional?
    {α : Type}
    (read : Json → Option α) :
    Option Json →
    Option (Option α)
  | none =>
      some none
  | some .null =>
      some none
  | some value =>
      (read value).map some

/-- A part that must be there. -/
def required?
    {α : Type}
    (read : Json → Option α)
    (part : Option Json) :
    Option α :=
  part.bind read

/--
The name of a case without content: alone, or as the only key of an object whose
value is null. Inside a field an empty object may stand for the null.
-/
def caseName?
    (insideField : Bool) :
    Json →
    Option String
  | .string name =>
      some name
  | .object [(name, .null)] =>
      some name
  | .object [(name, .object [])] =>
      if insideField then some name else none
  | _ =>
      none

/-- A label by its name. -/
def label? (json : Json) : Option Label := do
  let name ← caseName? true json
  [Label.optional, .required, .repeated].find? fun label =>
    label.jsonName == name

/-- A field type by its name, or by its code if it has no meaning. -/
def fieldType? (json : Json) : Option FieldType :=
  match json with
  | .object [("UNKNOWN", code)] =>
      (int32? code).map .unknown
  | json => do
      let name ← caseName? true json
      FieldType.known.find? fun type => type.jsonName == name

/-- A well-known type by its short name. -/
def wellKnown? (json : Json) : Option WellKnownType := do
  let name ← caseName? false json
  WellKnownType.ofShortName? name

/-- The parts of a field that describe it. -/
def descriptor? (members : List (String × Json)) : Option FieldDescriptor := do
  let part := fun key => JsonMembers.find? key members
  let name ← required? text? (part "name")
  let jsonName ← required? text? (part "jsonName")
  let number ← required? int32? (part "number")
  let type ← required? fieldType? (part "type")
  let label ← required? label? (part "label")
  let typeName ← optional? text? (part "typeName")
  let oneofIndex ← optional? int32? (part "oneofIndex")
  return {
    name := name
    jsonName := jsonName
    number := number
    type := type
    label := label
    typeName := typeName
    oneofIndex := oneofIndex
  }

/-- The members of a record that is given as the array of its parts. -/
def partMembers?
    (keys : List String)
    (items : List Json) :
    Option (List (String × Json)) :=
  if items.length = keys.length then
    some (keys.zip items)
  else
    none

/-- The members of a record, which may be given as the array of its parts. -/
def record?
    (keys : List String) :
    Json →
    Option (List (String × Json))
  | .object members =>
      some members
  | .array items =>
      partMembers? keys items
  | _ =>
      none

/-- A value of an enum. -/
def enumValue? (json : Json) : Option EnumValue := do
  let members ← record? ["name", "number"] json
  let name ← required? text? (JsonMembers.find? "name" members)
  let number ← required? int32? (JsonMembers.find? "number" members)
  return ⟨name, number⟩

/-- The values of an enum. -/
def enumValues? : Json → Option (List EnumValue)
  | .array items =>
      items.mapM enumValue?
  | _ =>
      none

/-- An enum schema. -/
def enum? (json : Json) : Option EnumSchema := do
  let members ← record? ["name", "fullName", "values"] json
  let name ← required? text? (JsonMembers.find? "name" members)
  let fullName ← required? text? (JsonMembers.find? "fullName" members)
  let values ← required? enumValues? (JsonMembers.find? "values" members)
  return ⟨name, fullName, values⟩

mutual

/-- A message schema. -/
def message? (json : Json) : Option MessageSchema :=
  match json with
  | .object members => do
      let name ← required? text? (JsonMembers.find? "name" members)
      let fullName ← required? text? (JsonMembers.find? "fullName" members)
      let fields ← fieldsMember? members
      let wellKnown ← optional? wellKnown? (JsonMembers.find? "wellKnown" members)
      return ⟨name, fullName, fields, wellKnown⟩
  | .array [namePart, fullNamePart, fieldsPart, wellKnownPart] => do
      let name ← text? namePart
      let fullName ← text? fullNamePart
      let fields ← fields? fieldsPart
      let wellKnown ← optional? wellKnown? (some wellKnownPart)
      return ⟨name, fullName, fields, wellKnown⟩
  | _ =>
      none

/-- The fields among the members of a message schema. -/
def fieldsMember? (members : List (String × Json)) : Option (List FieldSchema) :=
  match members with
  | [] =>
      none
  | (key, value) :: rest =>
      if key = "fields" then
        fields? value
      else
        fieldsMember? rest

/-- The fields of a message schema. -/
def fields? (json : Json) : Option (List FieldSchema) :=
  match json with
  | .array items =>
      fieldItems? items
  | _ =>
      none

/-- The fields of a message schema, one after the other. -/
def fieldItems? (items : List Json) : Option (List FieldSchema) :=
  match items with
  | [] =>
      some []
  | item :: rest => do
      let field ← field? item
      let others ← fieldItems? rest
      return field :: others

/-- A field of a message schema. -/
def field? (json : Json) : Option FieldSchema :=
  match json with
  | .object members => do
      let descriptor ← descriptor? members
      let nested ← nestedMember? members
      return ⟨descriptor, nested⟩
  | _ =>
      none

/-- What a field refers to, among the members of the field. -/
def nestedMember? (members : List (String × Json)) : Option (Option NestedSchema) :=
  match members with
  | [] =>
      some none
  | (key, value) :: rest =>
      if key = "nested" then
        if value.isNull then
          some none
        else
          (nested? value).map some
      else
        nestedMember? rest

/-- What a field refers to. -/
def nested? (json : Json) : Option NestedSchema :=
  match json with
  | .string name =>
      if name = "opaque" then some .unresolved else none
  | .object [(key, content)] =>
      if key = "message" then
        (message? content).map .message
      else if key = "enum" then
        (enum? content).map .enum
      else if key = "opaque" ∧ content.isNull then
        some .unresolved
      else
        none
  | _ =>
      none

end

end SchemaJson

namespace MessageSchema

/-- The JSON form of a message schema. -/
def toJson (schema : MessageSchema) : Json :=
  SchemaJson.ofMessage schema

/-- The message schema of a JSON form. -/
def ofJson? (json : Json) : Option MessageSchema :=
  SchemaJson.message? json

end MessageSchema

namespace EnumSchema

/-- The JSON form of an enum schema. -/
def toJson (schema : EnumSchema) : Json :=
  .object (SchemaJson.enumMembers schema)

/-- The enum schema of a JSON form. -/
def ofJson? (json : Json) : Option EnumSchema :=
  SchemaJson.enum? json

end EnumSchema

end GrpcDiscovery
