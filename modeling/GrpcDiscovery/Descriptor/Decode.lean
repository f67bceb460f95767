import GrpcDiscovery.Descriptor.Basic
import GrpcDiscovery.Wire.Payload

namespace GrpcDiscovery

/-!
# Descriptors on the wire

A descriptor is a message on the wire, and so are the descriptors inside it. How
the records of one kind of descriptor are read is said by a layout: for each
pair of field number and wire type it names the component that the record
belongs to and how the payload changes it. Any other record is read over.

Singular components take their last record, repeated components collect theirs
in order. A failure inside an embedded descriptor is reported with the path of
components that leads to it, the outermost first.
-/

/-- A failure to decode, with the components that enclose it. -/
structure DecodeFailure where
  path : List String
  cause : WireError
deriving DecidableEq, Repr

namespace DecodeFailure

/-- A failure outside every component. -/
def here (cause : WireError) : DecodeFailure :=
  ⟨[], cause⟩

/-- The same failure seen from one component further out. -/
def within
    (component : String)
    (failure : DecodeFailure) :
    DecodeFailure :=
  ⟨component :: failure.path, failure.cause⟩

/-- The wording of a failure: its cause, and its path if it has one. -/
def message (failure : DecodeFailure) : String :=
  match failure.path with
  | [] =>
      failure.cause.message
  | path =>
      failure.cause.message ++ " (in " ++ String.intercalate " > " path ++ ")"

end DecodeFailure

namespace Descriptor

/-- What a record means for a descriptor under construction. -/
inductive Component (σ : Type) where
  /-- A text. -/
  | text (set : String → σ → σ)
  /-- A signed number of thirty-two bits. -/
  | int32 (set : Int32 → σ → σ)
  /-- A truth value. -/
  | flag (set : Bool → σ → σ)
  /-- An embedded descriptor, by the name that failures give it. -/
  | embedded (label : String) (read : Bytes → Except DecodeFailure (σ → σ))
  /-- Nothing. -/
  | unrecognized

/-- How the records of one kind of descriptor are read. -/
abbrev Layout (σ : Type) := Tag → Component σ

/-- The enclosing component of a failure to read the payload itself. -/
def Component.locate
    {σ : Type}
    (component : Component σ)
    (cause : WireError) :
    DecodeFailure :=
  match component with
  | .embedded label _ =>
      (DecodeFailure.here cause).within label
  | _ =>
      DecodeFailure.here cause

/-- The change that a payload makes to the descriptor under construction. -/
def Component.change
    {σ : Type}
    (component : Component σ)
    (payload : Wire.Payload) :
    Except DecodeFailure (σ → σ) :=
  match component, payload with
  | .text set, .lengthDelimited content =>
      match Wire.textOf content with
      | .ok value =>
          .ok (set value)
      | .error cause =>
          .error (.here cause)
  | .int32 set, .varint value =>
      .ok (set (Wire.int32Of value))
  | .flag set, .varint value =>
      .ok (set (Wire.boolOf value))
  | .embedded label read, .lengthDelimited content =>
      match read content with
      | .ok set =>
          .ok set
      | .error failure =>
          .error (failure.within label)
  | _, _ =>
      .ok id

/-- Read records to the end and let each change the descriptor. -/
def readRecords
    {σ : Type}
    (layout : Layout σ)
    (descriptor : σ)
    (bytes : Bytes) :
    Except DecodeFailure σ :=
  if bytes.isEmpty then
    .ok descriptor
  else
    match tagRead : Wire.readTag bytes with
    | .error cause _ =>
        .error (.here cause)
    | .ok tag rest =>
        match payloadRead : Wire.readPayload tag rest with
        | .error cause _ =>
            .error ((layout tag).locate cause)
        | .ok payload rest =>
            have := Wire.readTag_shorter tagRead
            have := Wire.readPayload_length_le payloadRead
            match (layout tag).change payload with
            | .error failure =>
                .error failure
            | .ok change =>
                readRecords layout (change descriptor) rest
termination_by bytes.length

/-- An embedded descriptor that is added to those before it. -/
def collected
    {σ α : Type}
    (label : String)
    (read : Bytes → Except DecodeFailure α)
    (add : α → σ → σ) :
    Component σ :=
  .embedded label fun bytes => (read bytes).map add

/-- The layout of a value of an enum. -/
def enumValueLayout : Layout (String × Int32)
  | ⟨1, .lengthDelimited⟩ =>
      .text fun name value => (name, value.2)
  | ⟨2, .varint⟩ =>
      .int32 fun number value => (value.1, number)
  | _ =>
      .unrecognized

/-- Read a value of an enum. -/
def decodeEnumValue (bytes : Bytes) : Except DecodeFailure (String × Int32) :=
  readRecords enumValueLayout ("", 0) bytes

/-- The layout of an enum. -/
def enumLayout : Layout EnumDescriptor
  | ⟨1, .lengthDelimited⟩ =>
      .text fun name enum => { enum with name := name }
  | ⟨2, .lengthDelimited⟩ =>
      collected "value" decodeEnumValue fun value enum =>
        { enum with values := enum.values ++ [value] }
  | _ =>
      .unrecognized

/-- Read an enum. -/
def decodeEnum (bytes : Bytes) : Except DecodeFailure EnumDescriptor :=
  readRecords enumLayout {} bytes

/-- The components of a field, of which some may be missing. -/
structure FieldParts where
  name : String := ""
  jsonName : Option String := none
  number : Int32 := 0
  type : FieldType := .unknown 0
  label : Label := .optional
  typeName : Option String := none
  oneofIndex : Option Int32 := none

/-- The field of its components; without a JSON name of its own it has the usual one. -/
def FieldParts.field (parts : FieldParts) : FieldDescriptor where
  name := parts.name
  jsonName := parts.jsonName.getD (jsonNameOf parts.name)
  number := parts.number
  type := parts.type
  label := parts.label
  typeName := parts.typeName
  oneofIndex := parts.oneofIndex

/-- The layout of a field. -/
def fieldLayout : Layout FieldParts
  | ⟨1, .lengthDelimited⟩ =>
      .text fun name parts => { parts with name := name }
  | ⟨3, .varint⟩ =>
      .int32 fun number parts => { parts with number := number }
  | ⟨4, .varint⟩ =>
      .int32 fun code parts => { parts with label := .ofCode code }
  | ⟨5, .varint⟩ =>
      .int32 fun code parts => { parts with type := .ofCode code }
  | ⟨6, .lengthDelimited⟩ =>
      .text fun typeName parts => { parts with typeName := some typeName }
  | ⟨9, .varint⟩ =>
      .int32 fun index parts => { parts with oneofIndex := some index }
  | ⟨10, .lengthDelimited⟩ =>
      .text fun jsonName parts => { parts with jsonName := some jsonName }
  | _ =>
      .unrecognized

/-- Read a field. -/
def decodeField (bytes : Bytes) : Except DecodeFailure FieldDescriptor :=
  (readRecords fieldLayout {} bytes).map FieldParts.field

/-- The layout of a message, given how the messages inside it are read. -/
def messageLayout
    (nested : Bytes → Except DecodeFailure MessageDescriptor) :
    Layout MessageDescriptor
  | ⟨1, .lengthDelimited⟩ =>
      .text fun name message => { message with name := name }
  | ⟨2, .lengthDelimited⟩ =>
      collected "field" decodeField fun field message =>
        { message with fields := message.fields ++ [field] }
  | ⟨3, .lengthDelimited⟩ =>
      collected "nested_type" nested fun nestedType message =>
        { message with nestedTypes := message.nestedTypes ++ [nestedType] }
  | ⟨4, .lengthDelimited⟩ =>
      collected "enum_type" decodeEnum fun enum message =>
        { message with enumTypes := message.enumTypes ++ [enum] }
  | _ =>
      .unrecognized

/-- Read a message in which at most `levels` messages nest, itself included. -/
def decodeMessage :
    (levels : Nat) →
    Bytes →
    Except DecodeFailure MessageDescriptor
  | 0, _ =>
      .error (.here (.recursionLimitExceeded Wire.nestingLimit))
  | levels + 1, bytes =>
      readRecords (messageLayout (decodeMessage levels)) {} bytes

/--
The layout of a method.

Field number 4 holds the options of a method, but some writers put the client's
streaming flag there as an integer.
-/
def methodLayout : Layout MethodDescriptor
  | ⟨1, .lengthDelimited⟩ =>
      .text fun name method => { method with name := name }
  | ⟨2, .lengthDelimited⟩ =>
      .text fun inputType method => { method with inputType := inputType }
  | ⟨3, .lengthDelimited⟩ =>
      .text fun outputType method => { method with outputType := outputType }
  | ⟨4, .varint⟩ =>
      .flag fun streaming method => { method with clientStreaming := streaming }
  | ⟨5, .varint⟩ =>
      .flag fun streaming method => { method with clientStreaming := streaming }
  | ⟨6, .varint⟩ =>
      .flag fun streaming method => { method with serverStreaming := streaming }
  | _ =>
      .unrecognized

/-- Read a method. -/
def decodeMethod (bytes : Bytes) : Except DecodeFailure MethodDescriptor :=
  readRecords methodLayout {} bytes

/-- The layout of a service. -/
def serviceLayout : Layout ServiceDescriptor
  | ⟨1, .lengthDelimited⟩ =>
      .text fun name service => { service with name := name }
  | ⟨2, .lengthDelimited⟩ =>
      collected "method" decodeMethod fun method service =>
        { service with methods := service.methods ++ [method] }
  | _ =>
      .unrecognized

/-- Read a service. -/
def decodeService (bytes : Bytes) : Except DecodeFailure ServiceDescriptor :=
  readRecords serviceLayout {} bytes

/-- The layout of a file. -/
def fileLayout : Layout FileDescriptor
  | ⟨1, .lengthDelimited⟩ =>
      .text fun name file => { file with name := name }
  | ⟨2, .lengthDelimited⟩ =>
      .text fun package file => { file with package := package }
  | ⟨3, .lengthDelimited⟩ =>
      .text fun path file =>
        { file with dependencies := file.dependencies ++ [path] }
  | ⟨4, .lengthDelimited⟩ =>
      collected "message_type" (decodeMessage Wire.nestingLimit) fun message file =>
        { file with messageTypes := file.messageTypes ++ [message] }
  | ⟨5, .lengthDelimited⟩ =>
      collected "enum_type" decodeEnum fun enum file =>
        { file with enumTypes := file.enumTypes ++ [enum] }
  | ⟨6, .lengthDelimited⟩ =>
      collected "service" decodeService fun service file =>
        { file with services := file.services ++ [service] }
  | ⟨12, .lengthDelimited⟩ =>
      .text fun level file => { file with languageLevel := some level }
  | _ =>
      .unrecognized

end Descriptor

/-- Read the descriptor of a file. -/
def FileDescriptor.decode (bytes : Bytes) : Except DecodeFailure FileDescriptor :=
  Descriptor.readRecords Descriptor.fileLayout {} bytes

end GrpcDiscovery
