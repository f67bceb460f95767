import GrpcDiscovery.Descriptor.Basic
import GrpcDiscovery.TypeName
import Std.Data.TreeMap

namespace GrpcDiscovery

/-!
# The type index

The index holds every definition seen so far under its full name: messages,
enums and services, and besides them the files by path. Registering a file
enters its definitions one after the other, so that the last one of a name wins,
and says whether a message or an enum that was there before has changed.
-/

/-- A definition with its full name. -/
inductive Definition where
  | message (fullName : String) (descriptor : MessageDescriptor)
  | enum (fullName : String) (descriptor : EnumDescriptor)
  | service (fullName : String) (descriptor : ServiceDescriptor)
deriving BEq, Repr

/-- The definition of an enum inside a scope. -/
def EnumDescriptor.definition
    (scope : String)
    (enum : EnumDescriptor) :
    Definition :=
  .enum (TypeName.qualify scope enum.name) enum

/-- The definition of a service inside a scope. -/
def ServiceDescriptor.definition
    (scope : String)
    (service : ServiceDescriptor) :
    Definition :=
  .service (TypeName.qualify scope service.name) service

mutual

/-- The definitions of a message: those inside it, its enums, and itself. -/
def MessageDescriptor.definitions
    (scope : String)
    (message : MessageDescriptor) :
    List Definition :=
  match message with
  | ⟨name, fields, nestedTypes, enumTypes⟩ =>
      let fullName := TypeName.qualify scope name
      MessageDescriptor.listDefinitions fullName nestedTypes ++
        enumTypes.map (EnumDescriptor.definition fullName) ++
        [.message fullName ⟨name, fields, nestedTypes, enumTypes⟩]

/-- The definitions of messages, one after the other. -/
def MessageDescriptor.listDefinitions
    (scope : String)
    (messages : List MessageDescriptor) :
    List Definition :=
  match messages with
  | [] =>
      []
  | message :: rest =>
      message.definitions scope ++
        MessageDescriptor.listDefinitions scope rest

end

/-- The definitions of a file, in the order in which they are registered. -/
def FileDescriptor.definitions (file : FileDescriptor) : List Definition :=
  MessageDescriptor.listDefinitions file.package file.messageTypes ++
    file.enumTypes.map (EnumDescriptor.definition file.package) ++
    file.services.map (ServiceDescriptor.definition file.package)

/-- Every definition seen so far. -/
structure TypeIndex where
  messages : Std.TreeMap String MessageDescriptor := ∅
  enums : Std.TreeMap String EnumDescriptor := ∅
  services : Std.TreeMap String ServiceDescriptor := ∅
  files : Std.TreeMap String FileDescriptor := ∅

namespace TypeIndex

/-- The index without definitions. -/
def empty : TypeIndex := {}

/-- The message of a name. -/
def message?
    (index : TypeIndex)
    (name : String) :
    Option MessageDescriptor :=
  index.messages[TypeName.normalize name]?

/-- The enum of a name. -/
def enum?
    (index : TypeIndex)
    (name : String) :
    Option EnumDescriptor :=
  index.enums[TypeName.normalize name]?

/-- The service of a name. -/
def service?
    (index : TypeIndex)
    (name : String) :
    Option ServiceDescriptor :=
  index.services[TypeName.normalize name]?

/-- Whether a file of exactly this path is registered. -/
def hasFile
    (index : TypeIndex)
    (path : String) :
    Bool :=
  index.files.contains path

/-- The number of message names. -/
def messageCount (index : TypeIndex) : Nat :=
  index.messages.size

/-- Enter a definition, in place of one of the same kind and name. -/
def define
    (index : TypeIndex) :
    Definition →
    TypeIndex
  | .message fullName descriptor =>
      { index with messages := index.messages.insert fullName descriptor }
  | .enum fullName descriptor =>
      { index with enums := index.enums.insert fullName descriptor }
  | .service fullName descriptor =>
      { index with services := index.services.insert fullName descriptor }

/--
Whether entering a definition changes the fields of a message, or the values of
an enum, that is there already.
-/
def redefines
    (index : TypeIndex) :
    Definition →
    Bool
  | .message fullName descriptor =>
      match index.messages[fullName]? with
      | some previous =>
          previous.fields != descriptor.fields
      | none =>
          false
  | .enum fullName descriptor =>
      match index.enums[fullName]? with
      | some previous =>
          previous.values != descriptor.values
      | none =>
          false
  | .service _ _ =>
      false

/-- Enter definitions in order, and say whether one of them changed another. -/
def defineAll
    (index : TypeIndex)
    (definitions : List Definition) :
    TypeIndex × Bool :=
  definitions.foldl
    (fun state definition =>
      (state.1.define definition,
        state.2 || state.1.redefines definition))
    (index, false)

/-- Enter every definition of a file and the file itself. -/
def register
    (index : TypeIndex)
    (file : FileDescriptor) :
    TypeIndex × Bool :=
  let (defined, replaced) := index.defineAll file.definitions
  ({ defined with files := defined.files.insert file.name file }, replaced)

end TypeIndex

end GrpcDiscovery
