namespace GrpcDiscovery

/-!
# Versions of the reflection protocol

A server offers reflection as a service of its own. Two versions of that service
are in use; they take the same requests and differ in the name only.
-/

/-- A version of the reflection protocol. -/
inductive ReflectionVersion where
  | v1
  | v1alpha
deriving DecidableEq, Repr

namespace ReflectionVersion

/-- Every version, in the order in which they are tried. -/
def all : List ReflectionVersion :=
  [.v1, .v1alpha]

/-- The name of a version. -/
def name : ReflectionVersion → String
  | .v1 =>
      "v1"
  | .v1alpha =>
      "v1alpha"

/-- The full name of the service that a version defines. -/
def serviceName : ReflectionVersion → String
  | .v1 =>
      "grpc.reflection.v1.ServerReflection"
  | .v1alpha =>
      "grpc.reflection.v1alpha.ServerReflection"

/-- The last part of the address at which a server answers requests of a version. -/
def endpointPath (version : ReflectionVersion) : String :=
  "/" ++ version.serviceName ++ "/ServerReflectionInfo"

end ReflectionVersion

/-- Whether a name is exactly that of a reflection service. -/
def isReflectionService (name : String) : Bool :=
  ReflectionVersion.all.any fun version =>
    version.serviceName == name

end GrpcDiscovery
