import GrpcDiscovery.Json.Writer
import GrpcDiscovery.Reflection.Endpoint

namespace GrpcDiscovery

/-!
# Reflection requests and replies

A request puts one query to a reflection service. It is sent as a short JSON
object, and so should its answer be. What comes back is a response with a status
and a body, unless the exchange fails on the way.
-/

/-- What a reflection service can be asked. -/
inductive ReflectionQuery where
  /-- Which services there are. -/
  | listServices
  /-- The files that define a symbol. -/
  | fileContainingSymbol (symbol : String)
  /-- The file of a path. -/
  | fileByFilename (path : String)
deriving DecidableEq, Repr

namespace ReflectionQuery

/-- The key of a query. -/
def key : ReflectionQuery → String
  | .listServices =>
      "listServices"
  | .fileContainingSymbol _ =>
      "fileContainingSymbol"
  | .fileByFilename _ =>
      "fileByFilename"

/-- The argument of a query. -/
def argument : ReflectionQuery → String
  | .listServices =>
      ""
  | .fileContainingSymbol symbol =>
      symbol
  | .fileByFilename path =>
      path

/-- The text of a query: an object with its key only. -/
def body (query : ReflectionQuery) : String :=
  (Json.object [(query.key, .string query.argument)]).render

end ReflectionQuery

/-- A request as it is sent. -/
structure ReflectionRequest where
  url : Url
  query : ReflectionQuery
  userAgent : String
deriving DecidableEq, Repr

namespace ReflectionRequest

/-- The media type of queries and answers. -/
def mediaType : String := "application/json"

/-- The address of a request, whose fragment is not sent. -/
def urlText (request : ReflectionRequest) : String :=
  { request.url with fragment := none }.text

/-- The type of the query, the type of answer that is asked for, and the sender. -/
def headers (request : ReflectionRequest) : List String :=
  [mediaType, mediaType, request.userAgent]

/-- Whether a request goes to the service of a version. -/
def isOfVersion
    (request : ReflectionRequest)
    (version : ReflectionVersion) :
    Bool :=
  request.urlText.endsWith version.endpointPath

end ReflectionRequest

/-- What comes of a request. -/
inductive ReflectionReply where
  /-- A response with its body as it arrived. -/
  | response (status : Nat) (body : Bytes)
  /-- No connection can be opened. -/
  | refused
  /-- The connection ends without a response. -/
  | dropped
  /-- The body of the response breaks off. -/
  | truncated
  /-- The response, or the end of its body, does not come in time. -/
  | overdue
deriving DecidableEq, Repr

/-- Whether a request reached the server. -/
def ReflectionReply.hasArrived : ReflectionReply → Bool
  | .refused =>
      false
  | _ =>
      true

/-- A request with what came of it. -/
structure Exchange where
  request : ReflectionRequest
  reply : ReflectionReply
deriving DecidableEq, Repr

end GrpcDiscovery
