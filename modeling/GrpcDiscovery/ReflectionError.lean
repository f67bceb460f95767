import GrpcDiscovery.Descriptor.Decode
import GrpcDiscovery.Url.Error

namespace GrpcDiscovery

/-!
# Failures of discovery

A failure says at which stage discovery stopped: the exchange with the server,
its status, its answer, the descriptors in the answer, the server's address or
the configuration. Network failures, statuses other than success and time-outs
are failures of the transport.
-/

/-- Why a request could not be carried out. -/
inductive RequestFault where
  /-- The request as a whole is not one that can be sent. -/
  | unbuildable (url : Option String)
  /-- No answer came: the connection could not be opened, or it broke. -/
  | unsent (url : String)
  /-- The answer broke off. -/
  | unreadableBody
deriving DecidableEq, Repr

/-- The wording of a fault of a request. -/
def RequestFault.message : RequestFault → String
  | .unbuildable none =>
      "builder error"
  | .unbuildable (some url) =>
      "builder error for url (" ++ url ++ ")"
  | .unsent url =>
      "error sending request for url (" ++ url ++ ")"
  | .unreadableBody =>
      "error decoding response body"

/-- Why what should be a descriptor is none. -/
inductive DescriptorFault where
  /-- The text that carries it is not base64. -/
  | notBase64
  /-- Its bytes do not decode. -/
  | file (failure : DecodeFailure)
  /-- Bytes somewhere are not a message on the wire. -/
  | wire (cause : WireError)
  | other (reason : String)
deriving DecidableEq, Repr

/-- The wording of a fault of a descriptor. -/
def DescriptorFault.message : DescriptorFault → String
  | .notBase64 =>
      "fileDescriptorProto is not valid base64"
  | .file failure =>
      "FileDescriptorProto: " ++ failure.message
  | .wire cause =>
      cause.message
  | .other reason =>
      reason

/-- Why an answer is not one to the request. -/
inductive ResponseFault where
  /-- The body is not a reflection answer in JSON. -/
  | invalidBody
  /-- The list of services is not there. -/
  | missingServices
  /-- The descriptors are not there. -/
  | missingDescriptors
  /-- No descriptor defines a service that was listed. -/
  | undefinedService (name : String)
  | other (reason : String)
deriving DecidableEq, Repr

/-- The wording of a fault of an answer. -/
def ResponseFault.message : ResponseFault → String
  | .invalidBody =>
      "invalid JSON body"
  | .missingServices =>
      "missing listServicesResponse"
  | .missingDescriptors =>
      "missing fileDescriptorResponse"
  | .undefinedService name =>
      "no descriptor defines service '" ++ name ++ "'"
  | .other reason =>
      reason

/-- Why a configuration cannot be used. -/
inductive ConfigFault where
  /-- The file cannot be read, for that reason. -/
  | unreadable (reason : String)
  /-- The text is not TOML. -/
  | invalidToml
  /-- The time limit is not a positive integer. -/
  | timeoutNotPositive
  /-- The depth is not an integer from nought upwards. -/
  | depthNegative
  | other (reason : String)
deriving DecidableEq, Repr

/-- The wording of a fault of a configuration. -/
def ConfigFault.message : ConfigFault → String
  | .unreadable reason =>
      "Failed to read config: " ++ reason
  | .invalidToml =>
      "Invalid config TOML"
  | .timeoutNotPositive =>
      "timeout_ms must be a positive integer"
  | .depthNegative =>
      "max_depth must be a non-negative integer"
  | .other reason =>
      reason

/-- Why discovery stopped. -/
inductive ReflectionError where
  | timeout (milliseconds : Nat)
  | httpStatus (status : Nat) (body : String)
  | request (fault : RequestFault)
  /-- The server's own refusal. -/
  | application (code : Int32) (message : String)
  | malformedDescriptor (fault : DescriptorFault)
  | unexpectedResponse (fault : ResponseFault)
  | invalidUrl (url : String) (cause : UrlError)
  | config (fault : ConfigFault)
deriving DecidableEq, Repr

namespace ReflectionError

/-- The wording of a failure; the server's own words are given as they are. -/
def message : ReflectionError → String
  | .timeout milliseconds =>
      s!"Request timed out after {milliseconds} ms"
  | .httpStatus status body =>
      s!"HTTP {status}: " ++ body
  | .request fault =>
      "Request error: " ++ fault.message
  | .application _ message =>
      message
  | .malformedDescriptor fault =>
      "Malformed descriptor: " ++ fault.message
  | .unexpectedResponse fault =>
      "Unexpected reflection response: " ++ fault.message
  | .invalidUrl url cause =>
      "Invalid server URL '" ++ url ++ "': " ++ cause.message
  | .config fault =>
      "Config error: " ++ fault.message

/-- Whether a failure is one of the transport. -/
def isTransport : ReflectionError → Bool
  | .timeout _ =>
      true
  | .httpStatus _ _ =>
      true
  | .request _ =>
      true
  | _ =>
      false

/-- Whether a failure is a time-out. -/
def isTimeout : ReflectionError → Bool
  | .timeout _ =>
      true
  | _ =>
      false

/-- Whether a failure is the server's own refusal. -/
def isApplication : ReflectionError → Bool
  | .application _ _ =>
      true
  | _ =>
      false

end ReflectionError

end GrpcDiscovery
