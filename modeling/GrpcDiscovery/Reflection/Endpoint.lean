import GrpcDiscovery.Reflection.Version
import GrpcDiscovery.ReflectionError
import GrpcDiscovery.Url.Reader

namespace GrpcDiscovery

/-!
# Addresses of reflection services

A server is given by any URL. The address of its reflection service is the text
of that URL, without the slashes at its end, and the path of the service.

A request can be sent to an address if it has a host and the scheme is that of
the web. The host must be one that a request line can name.
-/

/-- A text without the slashes at its end. -/
def withoutTrailingSlashes (text : String) : String :=
  String.ofList (text.toList.reverse.dropWhile (· == '/')).reverse

/-- The address at which a server answers requests of a version. -/
def endpoint
    (serverUrl : String)
    (version : ReflectionVersion) :
    Except ReflectionError String :=
  match Url.parse serverUrl with
  | .ok _ =>
      .ok (withoutTrailingSlashes serverUrl ++ version.endpointPath)
  | .error cause =>
      .error (.invalidUrl serverUrl cause)

namespace Url

/-- The characters that a domain name may have and a request line may not. -/
def unsendableChars : List Char :=
  ['"', '\x60', '\x7b', '\x7d']

/-- The number of bytes that the text of an address may not reach. -/
def sizeLimit : Nat := 65535

/-- Whether a request can be sent to an address. -/
def isSendable (url : Url) : Bool :=
  (url.scheme == "http" || url.scheme == "https") &&
    url.hasHost &&
    url.text.utf8ByteSize < sizeLimit &&
    match url.host with
    | some host =>
        !host.text.toList.any unsendableChars.contains
    | none =>
        false

/-- The URL to which requests for an address go, if they can be sent. -/
def ofEndpoint (endpoint : String) : Except RequestFault Url :=
  match parse endpoint with
  | .error _ =>
      .error (.unbuildable none)
  | .ok url =>
      let bare := url.withoutCredentials
      if bare.isSendable then
        .ok bare
      else
        .error (.unbuildable (some bare.text))

end Url

end GrpcDiscovery
