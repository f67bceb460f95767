import GrpcDiscovery.Descriptor.Basic
import GrpcDiscovery.Schema.Basic
import GrpcDiscovery.Text.Split
import GrpcDiscovery.TypeName

namespace GrpcDiscovery

/-!
# Services

What discovery finds out about a service: its name and its methods, each with the
types of its messages and, where it is known, the schema of what the method takes.
-/

/-- A method of a service. -/
structure MethodInfo where
  name : String
  fullName : String
  inputType : String
  outputType : String
  clientStreaming : Bool
  serverStreaming : Bool
  inputSchema : Option MessageSchema := none

/-- A service with its methods in order of declaration. -/
structure ServiceInfo where
  name : String
  fullName : String
  methods : List MethodInfo

namespace MethodInfo

/-- What a descriptor says about a method of a service. -/
def ofDescriptor
    (serviceName : String)
    (method : MethodDescriptor) :
    MethodInfo where
  name := method.name
  fullName := serviceName ++ "." ++ method.name
  inputType := TypeName.normalize method.inputType
  outputType := TypeName.normalize method.outputType
  clientStreaming := method.clientStreaming
  serverStreaming := method.serverStreaming

/-- The path by which a method is called: its service and its name. -/
def path (method : MethodInfo) : String :=
  match Split.atLast? '.' method.fullName.toList with
  | some (service, name) =>
      "/" ++ String.ofList service ++ "/" ++ String.ofList name
  | none =>
      "/" ++ method.fullName

/-- Whether one message goes either way. -/
def isUnary (method : MethodInfo) : Bool :=
  !method.clientStreaming && !method.serverStreaming

/-- Whether a stream of messages goes either way. -/
def isBidiStreaming (method : MethodInfo) : Bool :=
  method.clientStreaming && method.serverStreaming

/-- The mark of a stream of messages. -/
def streamMark (streaming : Bool) : String :=
  if streaming then "stream " else ""

/-- The line that declares a method. -/
def declaration (method : MethodInfo) : String :=
  "  rpc " ++ method.name ++
    "(" ++ streamMark method.clientStreaming ++ method.inputType ++ ") returns (" ++
    streamMark method.serverStreaming ++ method.outputType ++ ");\n"

end MethodInfo

namespace ServiceInfo

/-- The first method of a name. -/
def method?
    (service : ServiceInfo)
    (name : String) :
    Option MethodInfo :=
  service.methods.find? fun method => method.name == name

/-- The lines that declare a service. -/
def declaration (service : ServiceInfo) : String :=
  "service " ++ service.fullName ++ " \x7b\n" ++
    String.join (service.methods.map MethodInfo.declaration) ++
    "\x7d\n"

end ServiceInfo

end GrpcDiscovery
