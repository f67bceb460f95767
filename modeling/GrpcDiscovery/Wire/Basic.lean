import GrpcDiscovery.Text.Utf8

namespace GrpcDiscovery

/-!
# The wire format

A message on the wire is a run of records. Each record opens with a tag, which
holds a field number and a wire type, and the wire type says how the payload is
laid out.

A reader consumes bytes from the front of what is still to be read. It ends in
a value or in a cause of failure, and in both cases it leaves the bytes that it
has not consumed.
-/

/-- How the payload of a record is laid out. -/
inductive WireType where
  | varint
  | fixed64
  | lengthDelimited
  | startGroup
  | endGroup
  | fixed32
deriving DecidableEq, Repr

/-- The wire type of a code, which has three bits on the wire. -/
def WireType.ofCode? : Nat → Option WireType
  | 0 =>
      some .varint
  | 1 =>
      some .fixed64
  | 2 =>
      some .lengthDelimited
  | 3 =>
      some .startGroup
  | 4 =>
      some .endGroup
  | 5 =>
      some .fixed32
  | _ =>
      none

/-- The code of a wire type. -/
def WireType.code : WireType → Nat
  | .varint =>
      0
  | .fixed64 =>
      1
  | .lengthDelimited =>
      2
  | .startGroup =>
      3
  | .endGroup =>
      4
  | .fixed32 =>
      5

/-- The opening of a record. -/
structure Tag where
  number : UInt32
  wireType : WireType
deriving DecidableEq, Repr

/-- Why bytes are not a message. -/
inductive WireError where
  /-- A variable-length integer ran past ten bytes or past the end. -/
  | malformedVarint
  /-- A payload of known length is longer than what is left. -/
  | truncatedMessage (needed remaining : Nat)
  /-- A tag with a wire type that has no meaning. -/
  | invalidWireType (code : Nat)
  /-- A text that is not UTF-8. -/
  | invalidUtf8 (fault : Utf8.Fault)
  /-- An end tag without its start tag. -/
  | unexpectedEndGroup
  /-- Groups or messages that nest too deep. -/
  | recursionLimitExceeded (limit : Nat)
deriving DecidableEq, Repr

/-- The wording of a wire error. -/
def WireError.message : WireError → String
  | .malformedVarint =>
      "Malformed varint"
  | .truncatedMessage needed remaining =>
      s!"Truncated message: needed {needed} bytes, {remaining} remaining"
  | .invalidWireType code =>
      s!"Invalid wire type {code}"
  | .invalidUtf8 fault =>
      "Invalid UTF-8: " ++ fault.message
  | .unexpectedEndGroup =>
      "Unexpected end-group tag"
  | .recursionLimitExceeded limit =>
      s!"Nesting deeper than {limit} levels"

namespace Wire

/-- A reader of bytes. -/
abbrev Reader := EStateM WireError Bytes

/-- A variable-length integer has at most this many bytes. -/
def maxVarintBytes : Nat := 10

/-- How many groups, or messages one inside the other, may be open at once. -/
def nestingLimit : Nat := 100

end Wire

end GrpcDiscovery
