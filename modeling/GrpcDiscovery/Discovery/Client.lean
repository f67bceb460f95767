import GrpcDiscovery.Config.Basic
import GrpcDiscovery.Discovery.Attempt
import GrpcDiscovery.Reflection.UserAgent

namespace GrpcDiscovery

/-!
# Clients

A client keeps the definitions and schemas of every server that it asked, until
it forgets them all. Discovery tries the versions of the protocol in turn and ends
with the first that works. If none does, the reason given is the first refusal by
the server itself, or else the last failure.
-/

/-- The outcome of discovery at an address. -/
structure DiscoveryResult where
  serverUrl : String
  outcome : Except ReflectionError (ReflectionVersion × List ServiceInfo)

namespace DiscoveryResult

/-- The services that were discovered. -/
def services (result : DiscoveryResult) : List ServiceInfo :=
  match result.outcome with
  | .ok (_, services) =>
      services
  | .error _ =>
      []

/-- The first service of a full name. -/
def service?
    (result : DiscoveryResult)
    (fullName : String) :
    Option ServiceInfo :=
  result.services.find? fun service => service.fullName == fullName

end DiscoveryResult

/-- A client with what it knows. -/
structure ReflectionClient where
  config : ReflectionConfig
  index : TypeIndex := .empty
  cache : SchemaCache := .empty

namespace ReflectionClient

/-- A client that knows nothing yet. -/
def new (config : ReflectionConfig) : Except ReflectionError ReflectionClient :=
  match UserAgent.check config.userAgent with
  | .ok _ =>
      .ok { config := config }
  | .error failure =>
      .error failure

/-- Of two failures one after the other, the one that is reported. -/
def reported (earlier later : ReflectionError) : ReflectionError :=
  if earlier.isApplication then earlier else later

/-- The outcome of discovery, with what is known after it. -/
abbrev Outcome :=
  Except ReflectionError (ReflectionVersion × List ServiceInfo) × DiscoveryState

/-- Attempt discovery by a version, and if that fails by the others in turn. -/
def tryVersions
    (attempt : ReflectionVersion → Discovery (List ServiceInfo))
    (version : ReflectionVersion)
    (others : List ReflectionVersion)
    (state : DiscoveryState) :
    Outcome :=
  match attempt version state with
  | .ok services state =>
      (.ok (version, services), state)
  | .error failure state =>
      match others with
      | [] =>
          (.error failure, state)
      | next :: rest =>
          match tryVersions attempt next rest state with
          | (.error later, state) =>
              (.error (reported failure later), state)
          | (.ok result, state) =>
              (.ok result, state)

/-- The channel of a client to the reflection service of a version. -/
def channel
    (client : ReflectionClient)
    (server : ReflectionServer)
    (serverUrl : String)
    (timeout : Option Nat)
    (version : ReflectionVersion) :
    ReflectionChannel where
  server := server
  serverUrl := serverUrl
  version := version
  userAgent := client.config.userAgent
  timeout := timeout.getD client.config.timeout

/--
Discover the services of a server, by the first version or else by the second.

The time limit is the configured one unless another is given. The history is
that of the server, and the exchanges of this discovery are put to it.
-/
def discover
    (client : ReflectionClient)
    (server : ReflectionServer)
    (serverUrl : String)
    (timeout : Option Nat)
    (history : List Exchange) :
    DiscoveryResult × ReflectionClient × List Exchange :=
  let (outcome, state) :=
    tryVersions
      (fun version =>
        Discovery.attempt
          (client.channel server serverUrl timeout version)
          client.config.maxDepth)
      .v1
      [.v1alpha]
      ⟨client.index, client.cache, history⟩
  (⟨serverUrl, outcome⟩,
    { client with index := state.index, cache := state.cache },
    state.history)

/-- Run a computation on the schemas that a client keeps. -/
def resolving
    {α : Type}
    (client : ReflectionClient)
    (action : Resolver → Resolver.Cached α) :
    α × ReflectionClient :=
  let (value, cache) := (action ⟨client.index, client.config.maxDepth⟩).run client.cache
  (value, { client with cache := cache })

/-- The schema of a message, which is built if it is not kept. -/
def resolveMessage
    (client : ReflectionClient)
    (name : String) :
    Option MessageSchema × ReflectionClient :=
  client.resolving fun resolver => resolver.resolveMessage name

/-- The schema of what a method gives. -/
def resolveOutput
    (client : ReflectionClient)
    (method : MethodInfo) :
    Option MessageSchema × ReflectionClient :=
  client.resolveMessage method.outputType

/-- The schema of a message, if it is kept. -/
def cachedMessage?
    (client : ReflectionClient)
    (name : String) :
    Option MessageSchema :=
  client.cache.message? name

/-- The schema of an enum, if it is kept. -/
def cachedEnum?
    (client : ReflectionClient)
    (name : String) :
    Option EnumSchema :=
  client.cache.enum? name

/-- Forget every definition and every schema. -/
def forget (client : ReflectionClient) : ReflectionClient :=
  { client with index := .empty, cache := .empty }

end ReflectionClient

end GrpcDiscovery
