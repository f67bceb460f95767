import GrpcDiscovery.Wire.Read

namespace GrpcDiscovery.Wire

/-!
# Payloads and groups

After its tag, a record has the payload of its wire type. A group is the one
payload without a length: it holds records up to the end tag of its own field
number, groups inside it included, and it is read over without keeping any of
it. At most a hundred groups may be open at once.
-/

/-- What stands after a tag. -/
inductive Payload where
  | varint (value : UInt64)
  | fixed64 (value : UInt64)
  | lengthDelimited (content : Bytes)
  | group
  | fixed32 (value : UInt32)
deriving DecidableEq, Repr

/-- Read a payload that is not a group; a group's own tags have none. -/
def readScalarPayload : WireType → Reader Payload
  | .varint => do
      let value ← readVarint
      return .varint value
  | .fixed64 => do
      let value ← readFixed64
      return .fixed64 value
  | .lengthDelimited => do
      let content ← readLengthDelimited
      return .lengthDelimited content
  | .fixed32 => do
      let value ← readFixed32
      return .fixed32 value
  | .startGroup =>
      throw .unexpectedEndGroup
  | .endGroup =>
      throw .unexpectedEndGroup

/-- Reading a payload leaves no more bytes than there were. -/
theorem readScalarPayload_length_le
    {wireType : WireType}
    {bytes rest : Bytes}
    {payload : Payload}
    (read : readScalarPayload wireType bytes = .ok payload rest) :
    rest.length ≤ bytes.length := by
  cases wireType with
  | varint =>
      simp only [readScalarPayload, bind, EStateM.bind] at read
      cases valueRead : readVarint bytes with
      | error cause tail =>
          simp [valueRead] at read
      | ok value tail =>
          simp only [valueRead, pure, EStateM.pure, EStateM.Result.ok.injEq] at read
          have := readVarintWithin_shorter valueRead
          rw [← read.2]
          omega
  | fixed64 =>
      simp only [readScalarPayload, readFixed64, bind, EStateM.bind] at read
      cases valueRead : readBytes 8 bytes with
      | error cause tail =>
          simp [valueRead] at read
      | ok value tail =>
          simp only [valueRead, pure, EStateM.pure, EStateM.Result.ok.injEq] at read
          have := readBytes_length_le valueRead
          rw [← read.2]
          omega
  | lengthDelimited =>
      simp only [readScalarPayload, readLengthDelimited, bind, EStateM.bind] at read
      cases lengthRead : readVarint bytes with
      | error cause tail =>
          simp [lengthRead] at read
      | ok length tail =>
          simp only [lengthRead] at read
          cases contentRead : readBytes length.toNat tail with
          | error cause tail =>
              simp [contentRead] at read
          | ok content tail =>
              simp only [contentRead, pure, EStateM.pure, EStateM.Result.ok.injEq] at read
              have := readVarintWithin_shorter lengthRead
              have := readBytes_length_le contentRead
              rw [← read.2]
              omega
  | fixed32 =>
      simp only [readScalarPayload, readFixed32, bind, EStateM.bind] at read
      cases valueRead : readBytes 4 bytes with
      | error cause tail =>
          simp [valueRead] at read
      | ok value tail =>
          simp only [valueRead, pure, EStateM.pure, EStateM.Result.ok.injEq] at read
          have := readBytes_length_le valueRead
          rw [← read.2]
          omega
  | startGroup =>
      cases read
  | endGroup =>
      cases read

/--
Read over records until every open group has met its end tag.

`openGroups` holds the field numbers of the groups that are open, the innermost
first.
-/
def skipGroups
    (openGroups : List UInt32)
    (bytes : Bytes) :
    EStateM.Result WireError Bytes Unit :=
  match openGroups with
  | [] =>
      .ok () bytes
  | innermost :: outer =>
      match tagRead : readTag bytes with
      | .error cause rest =>
          .error cause rest
      | .ok tag rest =>
          have _shorter := readTag_shorter tagRead
          match tag.wireType with
          | .startGroup =>
              if nestingLimit ≤ (innermost :: outer).length then
                .error (.recursionLimitExceeded nestingLimit) rest
              else
                skipGroups (tag.number :: innermost :: outer) rest
          | .endGroup =>
              if tag.number = innermost then
                skipGroups outer rest
              else
                .error .unexpectedEndGroup rest
          | wireType =>
              match payloadRead : readScalarPayload wireType rest with
              | .error cause rest =>
                  .error cause rest
              | .ok _ rest =>
                  have := readScalarPayload_length_le payloadRead
                  skipGroups (innermost :: outer) rest
termination_by bytes.length

/-- Read the payload that a tag announces. -/
def readPayload (tag : Tag) : Reader Payload :=
  match tag.wireType with
  | .startGroup => do
      skipGroups [tag.number]
      return .group
  | wireType =>
      readScalarPayload wireType

/-- Read over the payload that a tag announces. -/
def skipPayload (tag : Tag) : Reader Unit := do
  let _ ← readPayload tag

/-- Reading over groups leaves no more bytes than there were. -/
theorem skipGroups_length_le
    {openGroups : List UInt32}
    {bytes rest : Bytes}
    (skipped : skipGroups openGroups bytes = .ok () rest) :
    rest.length ≤ bytes.length := by
  fun_induction skipGroups openGroups bytes with
  | case1 =>
      simp only [EStateM.Result.ok.injEq] at skipped
      simp [skipped.2]
  | case2 =>
      simp at skipped
  | case3 =>
      simp at skipped
  | case4 =>
      rename_i inductionHypothesis
      have := inductionHypothesis skipped
      omega
  | case5 =>
      rename_i inductionHypothesis
      have := inductionHypothesis skipped
      omega
  | case6 =>
      simp at skipped
  | case7 =>
      simp at skipped
  | case8 =>
      rename_i inductionHypothesis
      have := inductionHypothesis skipped
      omega

/-- Reading a payload leaves no more bytes than there were, groups included. -/
theorem readPayload_length_le
    {tag : Tag}
    {bytes rest : Bytes}
    {payload : Payload}
    (read : readPayload tag bytes = .ok payload rest) :
    rest.length ≤ bytes.length := by
  obtain ⟨number, wireType⟩ := tag
  cases wireType with
  | startGroup =>
      simp only [readPayload, bind, EStateM.bind] at read
      cases skipped : skipGroups [number] bytes with
      | error cause tail =>
          simp [skipped] at read
      | ok done tail =>
          simp only [skipped, pure, EStateM.pure, EStateM.Result.ok.injEq] at read
          rw [← read.2]
          exact skipGroups_length_le skipped
  | _ =>
      simp only [readPayload] at read
      exact readScalarPayload_length_le read

end GrpcDiscovery.Wire
