import GrpcDiscovery.Proofs.Wire.Groups

namespace GrpcDiscovery.Wire

/-!
# Runs of records

A record is a tag with the payload that it announces, and a message is a run of
records. Any bytes are a run of records with a rest behind it that begins with no
record, and so whatever reads a message record by record can be told from the list
of its records.
-/

/-- The wire type of a payload. -/
def Payload.wireType : Payload → WireType
  | .varint _ =>
      .varint
  | .fixed64 _ =>
      .fixed64
  | .lengthDelimited _ =>
      .lengthDelimited
  | .group =>
      .startGroup
  | .fixed32 _ =>
      .fixed32

/-- A field number with a payload. -/
structure Record where
  number : UInt32
  payload : Payload
deriving DecidableEq, Repr

/-- The tag of a record. -/
def Record.tag (record : Record) : Tag :=
  ⟨record.number, record.payload.wireType⟩

/-- The bytes of one complete record. -/
inductive IsRecord : Record → Bytes → Prop where
  | intro
      {record : Record}
      {opening content : Bytes} :
      IsTag record.tag opening →
      IsPayload record.tag record.payload content →
      IsRecord record (opening ++ content)

/-- The bytes of complete records, one after the other. -/
inductive IsRun : List Record → Bytes → Prop where
  | nothing :
      IsRun [] []
  | record
      {first : Record}
      {records : List Record}
      {bytes rest : Bytes} :
      IsRecord first bytes →
      IsRun records rest →
      IsRun (first :: records) (bytes ++ rest)

/-! ## One record -/

/-- A tag announces payloads of its wire type only. -/
theorem IsPayload.wireType_eq
    {tag : Tag}
    {payload : Payload}
    {content : Bytes}
    (isPayload : IsPayload tag payload content) :
    payload.wireType = tag.wireType := by
  cases isPayload with
  | scalar isScalar =>
      cases isScalar <;> rfl
  | group =>
      rfl

/-- A tag and a payload that are read make up a record. -/
theorem exists_isRecord_of_read
    {tag : Tag}
    {payload : Payload}
    {bytes ahead rest : Bytes}
    (tagRead : readTag bytes = .ok tag ahead)
    (payloadRead : readPayload tag ahead = .ok payload rest) :
    ∃ consumed, IsRecord ⟨tag.number, payload⟩ consumed ∧
      (Record.mk tag.number payload).tag = tag ∧ bytes = consumed ++ rest := by
  obtain ⟨opening, isTag, rfl⟩ := readTag_eq_ok_iff.mp tagRead
  obtain ⟨content, isPayload, rfl⟩ := readPayload_eq_ok_iff.mp payloadRead
  have sameTag : (Record.mk tag.number payload).tag = tag := by
    rw [Record.tag, isPayload.wireType_eq]
  refine ⟨opening ++ content, .intro ?_ ?_, sameTag, (List.append_assoc _ _ _).symm⟩
  · rwa [sameTag]
  · rwa [sameTag]

/-- Bytes in which a record is read to the end are those of the record. -/
theorem isRecord_of_read
    {record : Record}
    {bytes ahead : Bytes}
    (tagRead : readTag bytes = .ok record.tag ahead)
    (payloadRead : readPayload record.tag ahead = .ok record.payload []) :
    IsRecord record bytes := by
  obtain ⟨consumed, isRecord, _, rfl⟩ := exists_isRecord_of_read tagRead payloadRead
  rwa [List.append_nil]

theorem IsRecord.exists_read
    {record : Record}
    {bytes : Bytes}
    (isRecord : IsRecord record bytes)
    (rest : Bytes) :
    ∃ ahead, readTag (bytes ++ rest) = .ok record.tag ahead ∧
      readPayload record.tag ahead = .ok record.payload rest := by
  cases isRecord with
  | intro isTag isPayload =>
      rw [List.append_assoc]
      exact ⟨_, isTag.read _, isPayload.read _⟩

/-! ## Runs -/

theorem IsRun.append
    {records others : List Record}
    {bytes rest : Bytes}
    (isRun : IsRun records bytes)
    (othersRun : IsRun others rest) :
    IsRun (records ++ others) (bytes ++ rest) := by
  induction isRun with
  | nothing =>
      exact othersRun
  | record isRecord _ inductionHypothesis =>
      rw [List.append_assoc]
      exact .record isRecord inductionHypothesis

theorem IsRecord.isRun
    {record : Record}
    {bytes : Bytes}
    (isRecord : IsRecord record bytes) :
    IsRun [record] bytes := by
  rw [← List.append_nil bytes]
  exact .record isRecord .nothing

/-- Whether no record stands at the beginning of bytes. -/
def BeginsWithoutRecord (bytes : Bytes) : Prop :=
  ∀ record consumed, IsRecord record consumed → ¬ consumed <+: bytes

/-- The records at the beginning of bytes, in order. -/
def recordsOf (bytes : Bytes) : List Record :=
  match tagRead : readTag bytes with
  | .error _ _ =>
      []
  | .ok tag ahead =>
      match payloadRead : readPayload tag ahead with
      | .error _ _ =>
          []
      | .ok payload rest =>
          have := readTag_shorter tagRead
          have := readPayload_length_le payloadRead
          ⟨tag.number, payload⟩ :: recordsOf rest
termination_by bytes.length

/-- The tags of the records at the beginning of bytes. -/
def tagsOf (bytes : Bytes) : List Tag :=
  (recordsOf bytes).map Record.tag

/-- Any bytes are a run of records and a rest that begins with none. -/
theorem exists_isRun_recordsOf (bytes : Bytes) :
    ∃ run rest, IsRun (recordsOf bytes) run ∧ BeginsWithoutRecord rest ∧
      bytes = run ++ rest := by
  fun_induction recordsOf bytes with
  | case1 bytes _ _ tagFailed =>
      refine ⟨[], bytes, .nothing, ?_, rfl⟩
      rintro record consumed isRecord ⟨rest, rfl⟩
      obtain ⟨ahead, tagRead, _⟩ := isRecord.exists_read rest
      rw [tagFailed] at tagRead
      cases tagRead
  | case2 bytes tag ahead tagRead _ _ payloadFailed =>
      refine ⟨[], bytes, .nothing, ?_, rfl⟩
      rintro record consumed isRecord ⟨rest, rfl⟩
      obtain ⟨_, sameTagRead, payloadRead⟩ := isRecord.exists_read rest
      rw [tagRead] at sameTagRead
      cases sameTagRead
      rw [payloadFailed] at payloadRead
      cases payloadRead
  | case3 bytes tag ahead tagRead payload rest payloadRead _ _ inductionHypothesis =>
      obtain ⟨consumed, isRecord, _, rfl⟩ := exists_isRecord_of_read tagRead payloadRead
      obtain ⟨run, behind, isRun, noRecord, rfl⟩ := inductionHypothesis
      exact ⟨consumed ++ run, behind, .record isRecord isRun, noRecord,
        (List.append_assoc _ _ _).symm⟩

end GrpcDiscovery.Wire
