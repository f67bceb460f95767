import GrpcDiscovery.Discovery.Imports
import GrpcDiscovery.Discovery.Service
import GrpcDiscovery.Schema.Resolver

namespace GrpcDiscovery.Discovery

/-!
# Discovery by one version

An attempt lists the services, fetches the files that define each of them with
what these import, and then describes the services one after the other. The
reflection service itself is passed over. The first failure ends the attempt;
what was registered before stays.
-/

/-- Fetch the files that define a service, and what they import. -/
def fetchService
    (channel : ReflectionChannel)
    (name : String) :
    Discovery Unit := do
  let files ← exchanging (channel.filesDefining name)
  let missing ← registerFiles files
  fetchImports channel missing missing

/-- Fetch the files of services, one service after the other. -/
def fetchServices (channel : ReflectionChannel) : List String → Discovery Unit
  | [] =>
      return ()
  | name :: rest => do
      fetchService channel name
      fetchServices channel rest

/-- Resolve types by what is known. -/
def resolving
    {α : Type}
    (maxDepth : Nat)
    (action : Resolver → Resolver.Cached α) :
    Discovery α := fun state =>
  let (value, cache) := (action ⟨state.index, maxDepth⟩).run state.cache
  .ok value { state with cache := cache }

/-- Describe methods of a service with schemas that are built anew. -/
def describeMethods
    (maxDepth : Nat)
    (serviceName : String) :
    List MethodDescriptor →
    Discovery (List MethodInfo)
  | [] =>
      return []
  | descriptor :: rest => do
      let method := MethodInfo.ofDescriptor serviceName descriptor
      let inputSchema ←
        resolving maxDepth fun resolver => resolver.rebuildMessage method.inputType
      let others ← describeMethods maxDepth serviceName rest
      return { method with inputSchema := inputSchema } :: others

/-- Describe a service of a name, which a file must have defined. -/
def describeService
    (maxDepth : Nat)
    (name : String) :
    Discovery ServiceInfo := do
  let state ← get
  match state.index.service? name with
  | none =>
      throw (.unexpectedResponse (.undefinedService name))
  | some descriptor =>
      let fullName := TypeName.normalize name
      let methods ← describeMethods maxDepth fullName descriptor.methods
      return ⟨descriptor.name, fullName, methods⟩

/-- Describe services, one after the other. -/
def describeServices (maxDepth : Nat) : List String → Discovery (List ServiceInfo)
  | [] =>
      return []
  | name :: rest => do
      let service ← describeService maxDepth name
      let others ← describeServices maxDepth rest
      return service :: others

/-- The names of the services to be described. -/
def describedNames (listed : List String) : List String :=
  listed.filter fun name => !isReflectionService name

/-- Discover the services of a server by the version of a channel. -/
def attempt
    (channel : ReflectionChannel)
    (maxDepth : Nat) :
    Discovery (List ServiceInfo) := do
  let listed ← exchanging channel.listServices
  let names := describedNames listed
  fetchServices channel names
  describeServices maxDepth names

end GrpcDiscovery.Discovery
