import GrpcDiscovery.Json.Value
import GrpcDiscovery.Schema.WellKnown

namespace GrpcDiscovery

/-!
# Validation

A request is checked against the schema of its message: it must be an object,
its keys must name fields, and each value must be of the JSON kind of its field.
Ranges and formats are not checked. A null stands for a field that is not set.

The faults are listed in the order of the keys, and each gives the path of keys
that leads to it.
-/

/-- What is wrong with a request. -/
inductive Fault where
  /-- The request is not an object. -/
  | notAnObject
  /-- No field has this name. -/
  | unknownField (path : String)
  /-- A repeated field does not hold an array. -/
  | notAnArray (path : String)
  /-- A value is not of the kind of its field. -/
  | wrongKind (path expected found : String)
  /-- An item of a repeated field is not of the kind of the field. -/
  | wrongItemKind (path : String) (index : Nat) (expected found : String)
deriving DecidableEq, Repr

/-- The wording of a fault. -/
def Fault.message : Fault → String
  | .notAnObject =>
      "Message must be an object"
  | .unknownField path =>
      "Unknown field: " ++ path
  | .notAnArray path =>
      "Field '" ++ path ++ "' must be an array"
  | .wrongKind path expected found =>
      "Field '" ++ path ++ "' expected " ++ expected ++ ", got " ++ found
  | .wrongItemKind path index expected found =>
      "Field '" ++ path ++ "' item " ++ toString index ++
        " expected " ++ expected ++ ", got " ++ found

/-- The outcome of a check. -/
structure Validation where
  faults : List Fault
deriving DecidableEq, Repr

namespace Validation

/-- Whether nothing is wrong. -/
def isValid (validation : Validation) : Bool :=
  validation.faults.isEmpty

/-- The wordings of the faults, in order. -/
def messages (validation : Validation) : List String :=
  validation.faults.map Fault.message

/-- What a single value of a field must be. -/
inductive Expectation where
  /-- A value of a kind, whatever is inside. -/
  | valueOf (kind : JsonKind)
  /-- An array, whatever its items. -/
  | anyArray
  /-- An object whose members are checked against a schema. -/
  | message (schema : MessageSchema)

/-- What JSON renders a well-known type as. -/
def Expectation.ofWellKnown (type : WellKnownType) : Expectation :=
  match type with
  | .value =>
      .valueOf .any
  | .listValue =>
      .anyArray
  | type =>
      .valueOf (type.jsonKind?.getD .object)

/--
What a single value of a field must be.

A message without a schema may be any object. Of the well-known types only
`Empty` is checked member by member.
-/
def Expectation.ofField (field : FieldSchema) : Expectation :=
  match field.descriptor.type.jsonKind, field.nested with
  | .object, some (.message schema) =>
      match schema.wellKnown with
      | none =>
          .message schema
      | some .empty =>
          .message schema
      | some type =>
          .ofWellKnown type
  | kind, _ =>
      .valueOf kind

/-- Whether a value is of a kind; enum values may be given by name or by number. -/
def isOfKind
    (value : Json) :
    JsonKind →
    Bool
  | .number =>
      value.isNumber
  | .boolean =>
      value.isBool
  | .string =>
      value.isString
  | .object =>
      value.isObject
  | .enumString =>
      value.isString || value.isNumber
  | .any =>
      true

/-- The kind that was expected of a value, if the value is of another. -/
def Expectation.mismatch?
    (expectation : Expectation)
    (value : Json) :
    Option String :=
  match expectation with
  | .valueOf kind =>
      if isOfKind value kind then none else some kind.describe
  | .anyArray =>
      if value.isArray then none else some "array"
  | .message _ =>
      if value.isObject then none else some JsonKind.object.describe

mutual

/-- The faults of the members of an object, whose keys are reported after `scope`. -/
def memberFaults
    (scope : String)
    (schema : MessageSchema)
    (members : List (String × Json)) :
    List Fault :=
  match members with
  | [] =>
      []
  | (key, value) :: rest =>
      let path := scope ++ key
      let faults :=
        match schema.field? key with
        | none =>
            [.unknownField path]
        | some field =>
            if value.isNull then
              []
            else if field.isRepeated then
              match value with
              | .array items =>
                  itemFaults path (.ofField field) 0 items
              | _ =>
                  [.notAnArray path]
            else
              match (Expectation.ofField field).mismatch? value with
              | some expected =>
                  [.wrongKind path expected value.kindName]
              | none =>
                  insideFaults path (.ofField field) value
      faults ++ memberFaults scope schema rest

/-- The faults of the items of a repeated field, counted from `index`. -/
def itemFaults
    (path : String)
    (expectation : Expectation)
    (index : Nat)
    (items : List Json) :
    List Fault :=
  match items with
  | [] =>
      []
  | item :: rest =>
      let faults :=
        match expectation.mismatch? item with
        | some expected =>
            [.wrongItemKind path index expected item.kindName]
        | none =>
            insideFaults path expectation item
      faults ++ itemFaults path expectation (index + 1) rest

/-- The faults inside a value that is of the kind expected. -/
def insideFaults
    (path : String)
    (expectation : Expectation)
    (value : Json) :
    List Fault :=
  match value with
  | .object members =>
      match expectation with
      | .message schema =>
          memberFaults (path ++ ".") schema members
      | _ =>
          []
  | _ =>
      []

end

end Validation

/--
Check a request against the schema of its message.

An object of a type that JSON renders freely may have any members.
-/
def MessageSchema.validate
    (schema : MessageSchema)
    (request : Json) :
    Validation :=
  match request with
  | .object members =>
      match schema.wellKnown with
      | some .struct =>
          ⟨[]⟩
      | some .value =>
          ⟨[]⟩
      | some .any =>
          ⟨[]⟩
      | _ =>
          ⟨Validation.memberFaults "" schema members⟩
  | _ =>
      ⟨[.notAnObject]⟩

end GrpcDiscovery
