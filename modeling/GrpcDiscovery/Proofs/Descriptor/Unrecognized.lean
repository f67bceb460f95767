import GrpcDiscovery.Proofs.Descriptor.Kinds
import Mathlib.Logic.Relation

namespace GrpcDiscovery.Descriptor

/-!
# Records that are not recognized

A record under a tag that a decoder does not interpret is read over, whatever its
payload is. So it may stand between any two records, those of an embedded descriptor
included, and nothing is read differently, the failures neither.
-/

namespace Kind

variable {kind : Kind}

/--
Whether bytes are one complete record that a kind of descriptor does not interpret:
a tag of which the kind makes nothing, and just the bytes that are read over for it.
An end tag is none, for nothing can be read over behind it.
-/
def IsUnrecognized (kind : Kind) (record : Bytes) : Prop :=
  ∃ tag content, Wire.readTag record = .ok tag content ∧
    tag ∉ kind.interpreted ∧ Wire.skipPayload tag content = .ok () []

/--
Whether one unrecognized record is inserted between two records of a descriptor, or
of a descriptor embedded in it at any depth. The record of an embedded descriptor is
then written anew, its length that of the longer content.
-/
inductive Inserts : Kind → Bytes → Bytes → Prop where
  | here
      {kind : Kind}
      {records : List Wire.Record}
      {before record : Bytes}
      (isRun : Wire.IsRun records before)
      (isUnrecognized : kind.IsUnrecognized record)
      (after : Bytes) :
      Inserts kind (before ++ after) (before ++ record ++ after)
  | inside
      {kind inner : Kind}
      {number : UInt32}
      {records : List Wire.Record}
      {content padded before plain rewritten : Bytes}
      (isRun : Wire.IsRun records before)
      (embeds : kind.Embeds number inner)
      (inserts : Inserts inner content padded)
      (isPlain : Wire.IsRecord ⟨number, .lengthDelimited content⟩ plain)
      (isRewritten : Wire.IsRecord ⟨number, .lengthDelimited padded⟩ rewritten)
      (after : Bytes) :
      Inserts kind (before ++ plain ++ after) (before ++ rewritten ++ after)

/-! ## One record -/

/-- What is read over to the end is a payload that can be read. -/
private theorem exists_payload_of_skipPayload
    {tag : Tag}
    {content : Bytes}
    (skipped : Wire.skipPayload tag content = .ok () []) :
    ∃ payload, Wire.readPayload tag content = .ok payload [] := by
  obtain ⟨payload, rest, read, finished⟩ := Wire.bind_eq_ok_iff.mp skipped
  cases finished
  exact ⟨payload, read⟩

theorem IsUnrecognized.exists_isRecord
    {bytes : Bytes}
    (isUnrecognized : kind.IsUnrecognized bytes) :
    ∃ record, Wire.IsRecord record bytes ∧ record.tag ∉ kind.interpreted := by
  obtain ⟨tag, content, tagRead, notInterpreted, skipped⟩ := isUnrecognized
  obtain ⟨payload, payloadRead⟩ := exists_payload_of_skipPayload skipped
  obtain ⟨consumed, isRecord, sameTag, rfl⟩ :=
    Wire.exists_isRecord_of_read tagRead payloadRead
  rw [List.append_nil]
  exact ⟨_, isRecord, sameTag ▸ notInterpreted⟩

/-- A record under a tag that is not interpreted changes nothing. -/
theorem effect_eq_id
    {record : Wire.Record}
    (notInterpreted : record.tag ∉ kind.interpreted) :
    kind.layout.effect record = .ok id := by
  rw [Layout.effect, layout_eq_unrecognized notInterpreted]
  rfl

/-! ## Records between others -/

/-- Two records of one effect may stand in each other's place. -/
theorem read_eq_of_effect_eq
    {records : List Wire.Record}
    {first second : Wire.Record}
    {before firstBytes secondBytes : Bytes}
    (isRun : Wire.IsRun records before)
    (isFirst : Wire.IsRecord first firstBytes)
    (isSecond : Wire.IsRecord second secondBytes)
    (sameEffect : kind.layout.effect first = kind.layout.effect second)
    (after : Bytes) :
    kind.read (before ++ firstBytes ++ after) =
      kind.read (before ++ secondBytes ++ after) := by
  simp only [read, List.append_assoc, readRecords_of_isRun isRun,
    readRecords_of_isRecord isFirst, readRecords_of_isRecord isSecond, sameEffect]

/-- An unrecognized record is read over wherever one may stand. -/
theorem read_insert
    {records : List Wire.Record}
    {before record : Bytes}
    (isRun : Wire.IsRun records before)
    (isUnrecognized : kind.IsUnrecognized record)
    (after : Bytes) :
    kind.read (before ++ record ++ after) = kind.read (before ++ after) := by
  obtain ⟨unrecognized, isRecord, notInterpreted⟩ := isUnrecognized.exists_isRecord
  simp only [read, List.append_assoc, readRecords_of_isRun isRun,
    readRecords_of_isRecord isRecord, effect_eq_id notInterpreted, id]

/-- Embedded descriptors that are read alike have the same effect. -/
theorem Embeds.effect_eq
    {inner : Kind}
    {number : UInt32}
    {content padded : Bytes}
    (embeds : kind.Embeds number inner)
    (same : inner.decode padded = inner.decode content) :
    kind.layout.effect ⟨number, .lengthDelimited padded⟩ =
      kind.layout.effect ⟨number, .lengthDelimited content⟩ := by
  obtain ⟨label, add, layout⟩ := embeds.layout_eq
  simp only [Layout.effect, Wire.Record.tag, Wire.Payload.wireType, layout, collected,
    Component.change, same]

/-! ## Descriptors -/

/-- A kind's descriptors are read alike when its records are. -/
theorem decode_eq_of_read_eq
    {first second : Bytes}
    (same : kind.read first = kind.read second) :
    kind.decode first = kind.decode second := by
  obtain byLayout | ⟨failure, fails⟩ := kind.decode_eq_or_error
  · rw [byLayout, byLayout, same]
  · rw [fails, fails]

/-- A descriptor with one unrecognized record more is read like that without. -/
theorem Inserts.decode_eq
    {bytes padded : Bytes}
    (inserts : kind.Inserts bytes padded) :
    kind.decode padded = kind.decode bytes := by
  induction inserts with
  | here isRun isUnrecognized after =>
      exact decode_eq_of_read_eq (read_insert isRun isUnrecognized after)
  | inside isRun embeds _ isPlain isRewritten after inductionHypothesis =>
      exact decode_eq_of_read_eq
        (read_eq_of_effect_eq isRun isRewritten isPlain
          (embeds.effect_eq inductionHypothesis) after)

/-- What a descriptor was read from is a run of records. -/
theorem isRun_of_decode
    {bytes : Bytes}
    {descriptor : kind.Value}
    (decoded : kind.decode bytes = .ok descriptor) :
    Wire.IsRun (Wire.recordsOf bytes) bytes := by
  obtain ⟨parts, reading, _⟩ := exists_read_of_decode decoded
  exact (isRun_of_readRecords reading).1

/--
Unrecognized records change no decoding. Behind anything that decodes on its own an
unrecognized record may be inserted, whatever follows; and any number of them may be
inserted at any depth. The result is the same, be it a descriptor or a failure.
-/
theorem decode_insert_unrecognized (kind : Kind) :
    (∀ before record after descriptor,
      kind.decode before = .ok descriptor →
      kind.IsUnrecognized record →
      kind.decode (before ++ record ++ after) = kind.decode (before ++ after)) ∧
    (∀ bytes padded,
      Relation.ReflTransGen kind.Inserts bytes padded →
      kind.decode padded = kind.decode bytes) := by
  constructor
  · intro before record after descriptor decoded isUnrecognized
    exact (Inserts.here (isRun_of_decode decoded) isUnrecognized after).decode_eq
  · intro bytes padded insertions
    induction insertions with
    | refl =>
        rfl
    | tail _ inserts inductionHypothesis =>
        rw [inserts.decode_eq, inductionHypothesis]

/-! ## A field and a file with records that are not recognized -/

/-- A field `x`. -/
def plainField : Bytes :=
  [0x0a, 1, 0x78]

/-- A record with a number that no field has. -/
def strayNumber : Bytes :=
  [0x38, 5]

/-- A group with one number in it. -/
def strayGroup : Bytes :=
  [0x13, 0x08, 1, 0x14]

/-- The name of a file. -/
def fileName : Bytes :=
  [0x0a, 1, 0x66]

/-- A message `M` with the field. -/
def plainMessage : Bytes :=
  [0x0a, 1, 0x4d, 0x12, 3] ++ plainField

/-- The message with the number in the field. -/
def paddedMessage : Bytes :=
  [0x0a, 1, 0x4d, 0x12, 5] ++ strayNumber ++ plainField

theorem isUnrecognized_strayNumber :
    Kind.field.IsUnrecognized strayNumber :=
  ⟨⟨7, .varint⟩, [5], rfl, by decide, rfl⟩

/-- The group stands under the number of the package, which is no group. -/
theorem isUnrecognized_strayGroup :
    Kind.file.IsUnrecognized strayGroup :=
  ⟨⟨2, .startGroup⟩, [0x08, 1, 0x14], rfl, by decide, by cbv⟩

theorem inserts_paddedMessage :
    (Kind.message Wire.nestingLimit).Inserts plainMessage paddedMessage := by
  have name : Wire.IsRecord ⟨1, .lengthDelimited [0x4d]⟩ [0x0a, 1, 0x4d] :=
    Wire.isRecord_of_read rfl rfl
  have field :
      Wire.IsRecord ⟨2, .lengthDelimited plainField⟩ ([0x12, 3] ++ plainField) :=
    Wire.isRecord_of_read rfl rfl
  have paddedField :
      Wire.IsRecord ⟨2, .lengthDelimited (strayNumber ++ plainField)⟩
        ([0x12, 5] ++ strayNumber ++ plainField) :=
    Wire.isRecord_of_read rfl rfl
  have inField : Kind.field.Inserts plainField (strayNumber ++ plainField) :=
    .here .nothing isUnrecognized_strayNumber plainField
  exact .inside name.isRun .messageField inField field paddedField []

theorem reflTransGen_inserts_paddedFile :
    Relation.ReflTransGen Kind.file.Inserts
      (fileName ++ ([0x22, 8] ++ plainMessage))
      (fileName ++ strayGroup ++ ([0x22, 10] ++ paddedMessage)) := by
  have name : Wire.IsRecord ⟨1, .lengthDelimited [0x66]⟩ fileName :=
    Wire.isRecord_of_read rfl rfl
  have group : Wire.IsRecord ⟨2, .group⟩ strayGroup :=
    Wire.isRecord_of_read rfl (by cbv)
  have message :
      Wire.IsRecord ⟨4, .lengthDelimited plainMessage⟩ ([0x22, 8] ++ plainMessage) :=
    Wire.isRecord_of_read rfl rfl
  have padded :
      Wire.IsRecord ⟨4, .lengthDelimited paddedMessage⟩ ([0x22, 10] ++ paddedMessage) :=
    Wire.isRecord_of_read rfl rfl
  have inFile :
      Kind.file.Inserts (fileName ++ ([0x22, 8] ++ plainMessage))
        (fileName ++ strayGroup ++ ([0x22, 8] ++ plainMessage)) :=
    .here name.isRun isUnrecognized_strayGroup _
  have inMessage :
      Kind.file.Inserts (fileName ++ strayGroup ++ ([0x22, 8] ++ plainMessage))
        (fileName ++ strayGroup ++ ([0x22, 10] ++ paddedMessage)) :=
    .inside (name.isRun.append group.isRun) .fileMessage inserts_paddedMessage
      message padded []
  exact .tail (.single inFile) inMessage

/--
A number behind a field and before bytes that do not decode, and a group in a file with
a number in its one field.
-/
theorem decode_insert_unrecognized_strayGroup :
    decodeField (plainField ++ strayNumber ++ [0x0a]) = decodeField (plainField ++ [0x0a]) ∧
      FileDescriptor.decode (fileName ++ strayGroup ++ ([0x22, 10] ++ paddedMessage)) =
        FileDescriptor.decode (fileName ++ ([0x22, 8] ++ plainMessage)) := by
  constructor
  · refine (decode_insert_unrecognized .field).1 plainField strayNumber [0x0a]
      ⟨"x", "x", 0, .unknown 0, .optional, none, none⟩ ?_ isUnrecognized_strayNumber
    decide +kernel
  · exact (decode_insert_unrecognized .file).2 _ _ reflTransGen_inserts_paddedFile

end Kind

end GrpcDiscovery.Descriptor
