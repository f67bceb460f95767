import GrpcDiscovery.Json.Reader
import GrpcDiscovery.Reflection.Request
import GrpcDiscovery.Schema.Json
import GrpcDiscovery.Text.Base64

namespace GrpcDiscovery

/-!
# Answers of reflection services

An answer is a JSON object with one member for each kind of query, of which the
one asked for should be there, and a member for a refusal. A key with a meaning must
not occur twice. What stands under any other key is passed over as it is written,
whether or not it stands for a value. Each record may also be given as the array of
its parts.

A reply is judged in a fixed order: whether it came at all, its status, whether
its body is an answer, whether the answer is a refusal, whether it has what was
asked for, and last whether the descriptors in it are base64.
-/

/-- The answer to a query. -/
structure ReflectionAnswer where
  services : Option (List String)
  /-- Descriptors in base64. -/
  descriptors : Option (List String)
  /-- The code and the words of a refusal. -/
  refusal : Option (Int32 × String)
deriving DecidableEq, Repr

namespace AnswerJson

open Json (Written)

/-- A text. -/
def text? : Written → Option String
  | .string chars =>
      Json.text? chars
  | _ =>
      none

/-- An integer of thirty-two bits. -/
def int32? : Written → Option Int32
  | .number numeral =>
      numeral.number?.bind fun number => SchemaJson.int32? (.number number)
  | _ =>
      none

/-- A member with the text of its key. -/
def keyed? (member : List Char × Written) : Option (String × Written) :=
  (Json.text? member.1).map fun key => (key, member.2)

/-- The value of a key, which must not occur twice. -/
def uniqueMember?
    (key : String)
    (members : List (String × Written)) :
    Option (Option Written) :=
  match members.filter fun member => member.1 == key with
  | [] =>
      some none
  | [(_, value)] =>
      some (some value)
  | _ =>
      none

/-- The parts of a record whose parts may be missing, in order of its keys. -/
def parts?
    (keys : List String) :
    Written →
    Option (List (Option Written))
  | .object members => do
      let members ← members.mapM keyed?
      keys.mapM fun key => uniqueMember? key members
  | .array items =>
      if items.length ≤ keys.length then
        some ((items.map some) ++ List.replicate (keys.length - items.length) none)
      else
        none
  | _ =>
      none

/-- A part that may be missing or null. -/
def optional?
    {α : Type}
    (read : Written → Option α) :
    Option Written →
    Option (Option α)
  | none =>
      some none
  | some .null =>
      some none
  | some value =>
      (read value).map some

/-- A part, or what stands for it when it is missing. -/
def defaulted?
    {α : Type}
    (read : Written → Option α)
    (default : α) :
    Option Written →
    Option α
  | some value =>
      read value
  | none =>
      some default

/-- A list of values. -/
def list?
    {α : Type}
    (read : Written → Option α) :
    Written →
    Option (List α)
  | .array items =>
      items.mapM read
  | _ =>
      none

/-- The name of a service that is listed. -/
def serviceName? (written : Written) : Option String := do
  match ← parts? ["name"] written with
  | [some name] =>
      text? name
  | _ =>
      none

/-- The names of the services that are listed. -/
def services? (written : Written) : Option (List String) := do
  match ← parts? ["service"] written with
  | [services] =>
      defaulted? (list? serviceName?) [] services
  | _ =>
      none

/-- The descriptors that are sent. -/
def descriptors? (written : Written) : Option (List String) := do
  match ← parts? ["fileDescriptorProto"] written with
  | [descriptors] =>
      defaulted? (list? text?) [] descriptors
  | _ =>
      none

/-- The code and the words of a refusal. -/
def refusal? (written : Written) : Option (Int32 × String) := do
  match ← parts? ["errorCode", "errorMessage"] written with
  | [code, message] =>
      let code ← defaulted? int32? 0 code
      let message ← defaulted? text? "" message
      return (code, message)
  | _ =>
      none

/-- The keys of an answer. -/
def answerKeys : List String :=
  ["listServicesResponse", "fileDescriptorResponse", "errorResponse"]

/-- Whether a record is complete, which an array of its parts must be. -/
def isComplete
    (keys : List String) :
    Written →
    Bool
  | .array items =>
      items.length == keys.length
  | _ =>
      true

/-- An answer. -/
def answer? (written : Written) : Option ReflectionAnswer := do
  match isComplete answerKeys written, ← parts? answerKeys written with
  | true, [services, descriptors, refusal] =>
      let services ← optional? services? services
      let descriptors ← optional? descriptors? descriptors
      let refusal ← optional? refusal? refusal
      return ⟨services, descriptors, refusal⟩
  | _, _ =>
      none

/-- The words of an error that is sent with a status other than success. -/
def errorMessage? (written : Written) : Option String := do
  match ← parts? ["message"] written with
  | [message] =>
      let message ← optional? text? message
      message
  | _ =>
      none

end AnswerJson

namespace ReflectionAnswer

/-- Read an answer. -/
def parse? (body : String) : Option ReflectionAnswer :=
  (Json.Written.parse? body).bind AnswerJson.answer?

end ReflectionAnswer

namespace ReflectionReply

/-- Whether a status is one of success. -/
def isSuccess (status : Nat) : Bool :=
  200 ≤ status && status < 300

/-- The words of a response with a status other than success: its message, or all of it. -/
def failureText (body : String) : String :=
  ((Json.Written.parse? body).bind AnswerJson.errorMessage?).getD body

/-- The answer that a response gives. -/
def answerOfResponse
    (status : Nat)
    (body : String) :
    Except ReflectionError ReflectionAnswer :=
  if ¬ isSuccess status then
    .error (.httpStatus status (failureText body))
  else
    match ReflectionAnswer.parse? body with
    | none =>
        .error (.unexpectedResponse .invalidBody)
    | some answer =>
        match answer.refusal with
        | some (code, message) =>
            .error (.application code message)
        | none =>
            .ok answer

/-- The answer that a reply gives to a request for an address, within a time limit. -/
def answer
    (reply : ReflectionReply)
    (endpoint : Url)
    (timeout : Nat) :
    Except ReflectionError ReflectionAnswer :=
  match reply with
  | .response status body =>
      answerOfResponse status (Utf8.decodeLossy body)
  | .refused =>
      .error (.request (.unsent endpoint.text))
  | .dropped =>
      .error (.request (.unsent endpoint.text))
  | .truncated =>
      .error (.request .unreadableBody)
  | .overdue =>
      .error (.timeout timeout)

end ReflectionReply

namespace ReflectionAnswer

/-- The names of the services that an answer lists. -/
def listedServices (answer : ReflectionAnswer) : Except ReflectionError (List String) :=
  match answer.services with
  | some names =>
      .ok names
  | none =>
      .error (.unexpectedResponse .missingServices)

/-- The descriptors that an answer carries. -/
def files (answer : ReflectionAnswer) : Except ReflectionError (List Bytes) :=
  match answer.descriptors with
  | none =>
      .error (.unexpectedResponse .missingDescriptors)
  | some texts =>
      match texts.mapM Base64.decode? with
      | some files =>
          .ok files
      | none =>
          .error (.malformedDescriptor .notBase64)

end ReflectionAnswer

end GrpcDiscovery
