import GrpcDiscovery.Discovery.Client
import GrpcDiscovery.Schema.Json

namespace GrpcDiscovery

/-!
# Results as JSON

A result is written as an object. The parts that only a success or only a failure
has are left out of the other, and so is the schema of a method that has none.
-/

/-- A method as JSON. -/
def MethodInfo.toJson (method : MethodInfo) : Json :=
  .object
    ([("name", .string method.name),
      ("fullName", .string method.fullName),
      ("inputType", .string method.inputType),
      ("outputType", .string method.outputType),
      ("clientStreaming", .bool method.clientStreaming),
      ("serverStreaming", .bool method.serverStreaming)] ++
      match method.inputSchema with
      | some schema =>
          [("inputMessageSchema", schema.toJson)]
      | none =>
          [])

/-- A service as JSON. -/
def ServiceInfo.toJson (service : ServiceInfo) : Json :=
  .object
    [("name", .string service.name),
      ("fullName", .string service.fullName),
      ("methods", .array (service.methods.map MethodInfo.toJson))]

/-- A result as JSON, the reason of a failure in the words given. -/
def DiscoveryResult.toJson
    (result : DiscoveryResult)
    (reason : ReflectionError → String) :
    Json :=
  .object
    ([("success", .bool result.outcome.isOk),
      ("services", .array (result.services.map ServiceInfo.toJson)),
      ("serverUrl", .string result.serverUrl)] ++
      match result.outcome with
      | .ok (version, _) =>
          [("reflectionVersion", .string version.name)]
      | .error failure =>
          [("error", .string (reason failure))])

end GrpcDiscovery
