import GrpcDiscovery.Json.Writer
import GrpcDiscovery.Schema.Resolver

namespace GrpcDiscovery

/-!
# Templates

A template is an example request for a message: an object with every field, each
with a placeholder of its type. Messages inside it are laid out in turn while
the depth lasts, and are empty objects below. A well-known type has the
placeholder of its JSON rendering as a field, but at the root it is laid out by
its fields, except for `Any`, which has its type key only.
-/

namespace Template

/-- The number nought as a floating-point numeral. -/
def floatingZero : Json :=
  .number (.decimal "0.0")

/-- A text that names the field it stands in for. -/
def namedText (name : String) : Json :=
  .string ("<" ++ name ++ ">")

/-- The placeholder of a well-known type in a field of that name. -/
def wellKnownPlaceholder
    (type : WellKnownType)
    (fieldName : String) :
    Json :=
  match type with
  | .timestamp =>
      .string "1970-01-01T00:00:00Z"
  | .duration =>
      .string "0s"
  | .empty =>
      .object []
  | .struct =>
      .object []
  | .fieldMask =>
      .string ""
  | .value =>
      .null
  | .listValue =>
      .array []
  | .any =>
      .object [("@type", .string "")]
  | .doubleValue =>
      floatingZero
  | .floatValue =>
      floatingZero
  | .int64Value =>
      .nat 0
  | .uint64Value =>
      .nat 0
  | .int32Value =>
      .nat 0
  | .uint32Value =>
      .nat 0
  | .boolValue =>
      .bool false
  | .stringValue =>
      namedText fieldName
  | .bytesValue =>
      .string ""

/-- The placeholder of a type that is neither a message nor an enum. -/
def scalarPlaceholder (field : FieldDescriptor) : Json :=
  match field.type with
  | .double =>
      floatingZero
  | .float =>
      floatingZero
  | .bool =>
      .bool false
  | .string =>
      namedText field.name
  | .bytes =>
      .string ""
  | .unknown _ =>
      .null
  | _ =>
      .nat 0

/-- The placeholder of an enum: its first value, where the enum is known. -/
def enumPlaceholder : Option NestedSchema → Json
  | some (.enum schema) =>
      .string schema.defaultValueName
  | _ =>
      .string "UNKNOWN"

mutual

/-- The template of a message with `depth` levels of messages below it. -/
def ofMessage
    (depth : Nat)
    (schema : MessageSchema) :
    Json :=
  match schema with
  | ⟨name, _, fields, wellKnown⟩ =>
      match wellKnown with
      | some .any =>
          wellKnownPlaceholder .any name
      | _ =>
          .object (JsonMembers.ofList (ofFields depth fields))

/-- The members of a template, one for each field. -/
def ofFields
    (depth : Nat)
    (fields : List FieldSchema) :
    List (String × Json) :=
  match fields with
  | [] =>
      []
  | field :: rest =>
      ofField depth field :: ofFields depth rest

/-- The member of a field; a repeated field holds one placeholder. -/
def ofField
    (depth : Nat)
    (field : FieldSchema) :
    String × Json :=
  match field with
  | ⟨descriptor, nested⟩ =>
      let placeholder :=
        match descriptor.type.jsonKind with
        | .object =>
            match nested with
            | some reference =>
                ofReference depth descriptor.name reference
            | none =>
                .object []
        | .enumString =>
            enumPlaceholder nested
        | _ =>
            scalarPlaceholder descriptor
      (descriptor.name,
        if descriptor.isRepeated then .array [placeholder] else placeholder)

/-- The placeholder of what a message field refers to. -/
def ofReference
    (depth : Nat)
    (fieldName : String)
    (reference : NestedSchema) :
    Json :=
  match reference with
  | .message schema =>
      match schema.wellKnown with
      | some type =>
          wellKnownPlaceholder type fieldName
      | none =>
          match depth with
          | 0 =>
              .object []
          | depth + 1 =>
              ofMessage depth schema
  | _ =>
      .object []

end

end Template

/-- The template of a message. -/
def MessageSchema.template
    (schema : MessageSchema)
    (maxDepth : Nat) :
    Json :=
  Template.ofMessage maxDepth schema

/-- The template of a message as compact text. -/
def MessageSchema.templateText
    (schema : MessageSchema)
    (maxDepth : Option Nat) :
    String :=
  (schema.template (maxDepth.getD defaultMaxDepth)).render

end GrpcDiscovery
