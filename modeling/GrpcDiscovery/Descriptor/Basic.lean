import GrpcDiscovery.Text.Uppercase

namespace GrpcDiscovery

/-!
# Descriptors

A descriptor describes the definitions of one source file: its messages with
their fields, nested messages and enums, its enums and its services. Types are
referred to by name only.
-/

/-- The type of a field. -/
inductive FieldType where
  | double
  | float
  | int64
  | uint64
  | int32
  | fixed64
  | fixed32
  | bool
  | string
  | group
  | message
  | bytes
  | uint32
  | enum
  | sfixed32
  | sfixed64
  | sint32
  | sint64
  /-- A type code without a meaning. -/
  | unknown (code : Int32)
deriving DecidableEq, Repr

namespace FieldType

/-- The type of a code. -/
def ofCode (code : Int32) : FieldType :=
  match code.toInt with
  | 1 =>
      .double
  | 2 =>
      .float
  | 3 =>
      .int64
  | 4 =>
      .uint64
  | 5 =>
      .int32
  | 6 =>
      .fixed64
  | 7 =>
      .fixed32
  | 8 =>
      .bool
  | 9 =>
      .string
  | 10 =>
      .group
  | 11 =>
      .message
  | 12 =>
      .bytes
  | 13 =>
      .uint32
  | 14 =>
      .enum
  | 15 =>
      .sfixed32
  | 16 =>
      .sfixed64
  | 17 =>
      .sint32
  | 18 =>
      .sint64
  | _ =>
      .unknown code

/-- The code of a type. -/
def code : FieldType → Int32
  | .double =>
      1
  | .float =>
      2
  | .int64 =>
      3
  | .uint64 =>
      4
  | .int32 =>
      5
  | .fixed64 =>
      6
  | .fixed32 =>
      7
  | .bool =>
      8
  | .string =>
      9
  | .group =>
      10
  | .message =>
      11
  | .bytes =>
      12
  | .uint32 =>
      13
  | .enum =>
      14
  | .sfixed32 =>
      15
  | .sfixed64 =>
      16
  | .sint32 =>
      17
  | .sint64 =>
      18
  | .unknown code =>
      code

/-- Whether values of the type are floating-point numbers. -/
def isFloating : FieldType → Bool
  | .double =>
      true
  | .float =>
      true
  | _ =>
      false

/-- The keyword of the type in a definition. -/
def keyword : FieldType → String
  | .double =>
      "double"
  | .float =>
      "float"
  | .int64 =>
      "int64"
  | .uint64 =>
      "uint64"
  | .int32 =>
      "int32"
  | .fixed64 =>
      "fixed64"
  | .fixed32 =>
      "fixed32"
  | .bool =>
      "bool"
  | .string =>
      "string"
  | .group =>
      "group"
  | .message =>
      "message"
  | .bytes =>
      "bytes"
  | .uint32 =>
      "uint32"
  | .enum =>
      "enum"
  | .sfixed32 =>
      "sfixed32"
  | .sfixed64 =>
      "sfixed64"
  | .sint32 =>
      "sint32"
  | .sint64 =>
      "sint64"
  | .unknown _ =>
      "unknown"

end FieldType

/-- How often a field occurs. -/
inductive Label where
  | optional
  | required
  | repeated
deriving DecidableEq, Repr

/-- The label of a code; codes without a meaning count as optional. -/
def Label.ofCode (code : Int32) : Label :=
  match code.toInt with
  | 2 =>
      .required
  | 3 =>
      .repeated
  | _ =>
      .optional

/-- A field of a message. -/
structure FieldDescriptor where
  name : String
  jsonName : String
  number : Int32
  type : FieldType
  label : Label
  /-- The name of the message or enum that the field refers to. -/
  typeName : Option String
  /-- The position of the field's alternative, if it belongs to one. -/
  oneofIndex : Option Int32
deriving DecidableEq, Repr

/-- Whether a field holds a list of values. -/
def FieldDescriptor.isRepeated (field : FieldDescriptor) : Bool :=
  field.label == .repeated

/-- An enum with its values in order of declaration. -/
structure EnumDescriptor where
  name : String := ""
  values : List (String × Int32) := []
deriving DecidableEq, Repr

/-- A message with its fields and the definitions inside it. -/
structure MessageDescriptor where
  name : String := ""
  fields : List FieldDescriptor := []
  nestedTypes : List MessageDescriptor := []
  enumTypes : List EnumDescriptor := []
deriving BEq, Repr

/-- A method of a service. -/
structure MethodDescriptor where
  name : String := ""
  inputType : String := ""
  outputType : String := ""
  clientStreaming : Bool := false
  serverStreaming : Bool := false
deriving DecidableEq, Repr

/-- A service with its methods in order of declaration. -/
structure ServiceDescriptor where
  name : String := ""
  methods : List MethodDescriptor := []
deriving DecidableEq, Repr

/-- The definitions of one source file. -/
structure FileDescriptor where
  name : String := ""
  package : String := ""
  /-- The paths of the imported files. -/
  dependencies : List String := []
  messageTypes : List MessageDescriptor := []
  enumTypes : List EnumDescriptor := []
  services : List ServiceDescriptor := []
  /-- The level of the definition language, where the file states one. -/
  languageLevel : Option String := none
deriving BEq, Repr

/--
The characters of the JSON name: every underscore goes, and the character after
it is upper-cased.
-/
def jsonNameChars (upperNext : Bool) : List Char → List Char
  | [] =>
      []
  | char :: rest =>
      if char = '_' then
        jsonNameChars true rest
      else if upperNext then
        Uppercase.ofChar char ++ jsonNameChars false rest
      else
        char :: jsonNameChars false rest

/-- The lower camel-case name by which JSON refers to a field. -/
def jsonNameOf (name : String) : String :=
  String.ofList (jsonNameChars false name.toList)

end GrpcDiscovery
