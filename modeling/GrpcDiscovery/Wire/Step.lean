import GrpcDiscovery.Wire.Payload

namespace GrpcDiscovery.Wire

/-!
# Reading step by step

A cursor stands somewhere in a buffer. A step reads one thing at the cursor and
moves it, also when the read fails: the cursor then stands where the failing
read left it, and further steps go on from there.
-/

/-- A buffer and what is still to be read of it. -/
structure Cursor where
  buffer : Bytes
  rest : Bytes
deriving DecidableEq, Repr

/-- A cursor at the start of a buffer. -/
def Cursor.start (buffer : Bytes) : Cursor :=
  ⟨buffer, buffer⟩

/-- The number of bytes before the cursor. -/
def Cursor.position (cursor : Cursor) : Nat :=
  cursor.buffer.length - cursor.rest.length

/-- Whether bytes are left. -/
def Cursor.hasRemaining (cursor : Cursor) : Bool :=
  !cursor.rest.isEmpty

/-- One thing to read. -/
inductive Step where
  | varint
  | tag
  | lengthDelimited
  | string
  | bool
  | int32
  | fixed32
  | fixed64
  /-- Read over the payload of a tag that is known already. -/
  | skip (tag : Tag)
  /-- Read a tag and over its payload. -/
  | skipRecord
deriving DecidableEq, Repr

/-- What a step read. -/
inductive StepValue where
  | varint (value : UInt64)
  | tag (tag : Tag)
  | lengthDelimited (content : Bytes)
  | string (text : String)
  | bool (value : Bool)
  | int32 (value : Int32)
  | fixed32 (value : UInt32)
  | fixed64 (value : UInt64)
  | skipped
deriving DecidableEq, Repr

/-- The reader of a step. -/
def Step.reader : Step → Reader StepValue
  | .varint => do
      let value ← readVarint
      return .varint value
  | .tag => do
      let opening ← readTag
      return .tag opening
  | .lengthDelimited => do
      let content ← readLengthDelimited
      return .lengthDelimited content
  | .string => do
      let text ← readString
      return .string text
  | .bool => do
      let value ← readBool
      return .bool value
  | .int32 => do
      let value ← readInt32
      return .int32 value
  | .fixed32 => do
      let value ← readFixed32
      return .fixed32 value
  | .fixed64 => do
      let value ← readFixed64
      return .fixed64 value
  | .skip opening => do
      skipPayload opening
      return .skipped
  | .skipRecord => do
      let opening ← readTag
      skipPayload opening
      return .tag opening

/-- Take one step. -/
def Cursor.advance
    (cursor : Cursor)
    (step : Step) :
    Except WireError StepValue × Cursor :=
  match step.reader cursor.rest with
  | .ok value rest =>
      (.ok value, { cursor with rest := rest })
  | .error cause rest =>
      (.error cause, { cursor with rest := rest })

/-- Take steps one after the other, each with the cursor that it leaves. -/
def Cursor.run
    (cursor : Cursor) :
    List Step →
    List (Except WireError StepValue × Cursor)
  | [] =>
      []
  | step :: steps =>
      let outcome := cursor.advance step
      outcome :: outcome.2.run steps

end GrpcDiscovery.Wire
