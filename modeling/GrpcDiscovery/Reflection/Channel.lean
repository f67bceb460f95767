import GrpcDiscovery.Reflection.Answer
import GrpcDiscovery.Reflection.Server

namespace GrpcDiscovery

/-!
# Channels to reflection services

A channel joins a caller to the reflection service of one version on one server.
A call puts one query through it and keeps a record of the exchange. A query that
cannot be sent leaves no record.
-/

/-- A caller, a server, and how the one asks the other. -/
structure ReflectionChannel where
  server : ReflectionServer
  serverUrl : String
  version : ReflectionVersion
  userAgent : String
  /-- The time limit of a call in milliseconds. -/
  timeout : Nat

/-- A computation that exchanges requests and replies and may fail. -/
abbrev Exchanging (α : Type) :=
  List Exchange → Except ReflectionError α × List Exchange

namespace ReflectionChannel

/-- The URL to which requests of a channel go, if it has one. -/
def target (channel : ReflectionChannel) : Except ReflectionError Url :=
  match endpoint channel.serverUrl channel.version with
  | .error failure =>
      .error failure
  | .ok address =>
      match Url.ofEndpoint address with
      | .ok url =>
          .ok url
      | .error fault =>
          .error (.request fault)

/-- Put a query and take from the answer what was asked for. -/
def ask
    {α : Type}
    (channel : ReflectionChannel)
    (query : ReflectionQuery)
    (pick : ReflectionAnswer → Except ReflectionError α) :
    Exchanging α := fun history =>
  match channel.target with
  | .error failure =>
      (.error failure, history)
  | .ok url =>
      let request : ReflectionRequest := ⟨url, query, channel.userAgent⟩
      let reply := channel.server.reply history request
      ((reply.answer url channel.timeout).bind pick, history ++ [⟨request, reply⟩])

/-- Ask for the names of the services. -/
def listServices (channel : ReflectionChannel) : Exchanging (List String) :=
  channel.ask .listServices ReflectionAnswer.listedServices

/-- Ask for the files that define a symbol. -/
def filesDefining
    (channel : ReflectionChannel)
    (symbol : String) :
    Exchanging (List Bytes) :=
  channel.ask (.fileContainingSymbol symbol) ReflectionAnswer.files

/-- Ask for the file of a path. -/
def filesNamed
    (channel : ReflectionChannel)
    (path : String) :
    Exchanging (List Bytes) :=
  channel.ask (.fileByFilename path) ReflectionAnswer.files

end ReflectionChannel

end GrpcDiscovery
