import GrpcDiscovery.Descriptor.Decode
import GrpcDiscovery.Proofs.Wire.Write
import Mathlib.Data.List.Forall2

namespace GrpcDiscovery

/-!
# Encodings of descriptors

A descriptor is written part by part, one record each. The parts have field
numbers; parts of one number keep their order, and parts of different numbers
may come in any order. Parts that are descriptors themselves are written by the
same rules, so that a descriptor has many encodings.

The parts of a descriptor are listed without reference to how it is read.
-/

namespace Descriptor

/-- A record of a descriptor. -/
inductive Record where
  | varint (number : UInt32) (value : UInt64)
  | lengthDelimited (number : UInt32) (content : Bytes)
deriving DecidableEq, Repr

namespace Record

/-- The tag of a record. -/
def tag : Record → Tag
  | .varint number _ =>
      ⟨number, .varint⟩
  | .lengthDelimited number _ =>
      ⟨number, .lengthDelimited⟩

/-- What stands after the tag. -/
def payload : Record → Wire.Payload
  | .varint _ value =>
      .varint value
  | .lengthDelimited _ content =>
      .lengthDelimited content

/-- A record on the wire. -/
def bytes : Record → Bytes
  | .varint number value =>
      Wire.writeTag ⟨number, .varint⟩ ++ Wire.writeVarint value
  | .lengthDelimited number content =>
      Wire.writeTag ⟨number, .lengthDelimited⟩ ++ Wire.writeLengthDelimited content

/-- Whether the length of a record is a number of sixty-four bits. -/
def Fits : Record → Prop
  | .varint _ _ =>
      True
  | .lengthDelimited _ content =>
      content.length < 2 ^ 64

instance (record : Record) : Decidable record.Fits :=
  match record with
  | .varint _ _ =>
      .isTrue trivial
  | .lengthDelimited _ content =>
      inferInstanceAs (Decidable (content.length < 2 ^ 64))

/-- The tag and the length of a record take at most ten bytes each. -/
theorem length_lengthDelimited_le
    (number : UInt32)
    (content : Bytes) :
    (lengthDelimited number content).bytes.length ≤ content.length + 20 := by
  have tag := Wire.length_writeVarintWithin_le Wire.maxVarintBytes
    (8 * number.toUInt64 + UInt64.ofNat WireType.lengthDelimited.code)
  have length := Wire.length_writeVarintWithin_le Wire.maxVarintBytes
    (UInt64.ofNat content.length)
  have limit : Wire.maxVarintBytes = 10 := rfl
  simp only [bytes, Wire.writeTag, Wire.writeLengthDelimited, Wire.writeVarint,
    List.length_append]
  omega

end Record

/-- A part of a descriptor with its field number. -/
inductive Part where
  | text (number : UInt32) (value : String)
  | int32 (number : UInt32) (value : Int32)
  | flag (number : UInt32) (value : Bool)
  /-- A descriptor, by its encodings. -/
  | embedded (number : UInt32) (encodings : Bytes → Prop)

namespace Part

/-- The field number of a part. -/
def number : Part → UInt32
  | .text number _ =>
      number
  | .int32 number _ =>
      number
  | .flag number _ =>
      number
  | .embedded number _ =>
      number

/-- The records that a part may be written as. -/
inductive WrittenAs : Part → Record → Prop where
  | text (number : UInt32) (value : String) :
      WrittenAs (.text number value) (.lengthDelimited number (Utf8.encode value))
  | int32 (number : UInt32) (value : Int32) :
      WrittenAs (.int32 number value) (.varint number (Wire.ofInt32 value))
  | flag (number : UInt32) (value : Bool) :
      WrittenAs (.flag number value) (.varint number (Wire.ofBool value))
  | embedded
      (number : UInt32)
      {encodings : Bytes → Prop}
      {content : Bytes} :
      encodings content →
      WrittenAs (.embedded number encodings) (.lengthDelimited number content)

end Part

/-- Whether two lists have the same parts of every field number, in the same order. -/
def Interleaves (order parts : List Part) : Prop :=
  ∀ number : UInt32,
    order.filter (fun part => part.number == number) =
      parts.filter (fun part => part.number == number)

/-- Whether bytes are the records of parts, in an order that keeps equal numbers in place. -/
def IsEncoding
    (parts : List Part)
    (bytes : Bytes) :
    Prop :=
  ∃ order records,
    Interleaves order parts ∧
      List.Forall₂ Part.WrittenAs order records ∧
      (∀ record ∈ records, record.Fits) ∧
      bytes = records.flatMap Record.bytes

/-- A part that is the first of its number may come before all others. -/
theorem interleaves_cons_iff
    {order before after : List Part}
    {part : Part}
    (differs : ∀ earlier ∈ before, earlier.number ≠ part.number) :
    Interleaves (part :: order) (before ++ part :: after) ↔
      Interleaves order (before ++ after) := by
  apply forall_congr'
  intro number
  rw [List.filter_append, List.filter_append]
  by_cases isNumber : part.number = number
  · have noneBefore : before.filter (fun part => part.number == number) = [] := by
      apply List.filter_eq_nil_iff.mpr
      intro earlier member
      simpa [isNumber] using differs earlier member
    simp [noneBefore, isNumber]
  · simp [isNumber]

/-- Parts may be written in the order in which they are listed. -/
theorem isEncoding_of_writtenAs
    {parts : List Part}
    {records : List Record}
    (written : List.Forall₂ Part.WrittenAs parts records)
    (fits : ∀ record ∈ records, record.Fits) :
    IsEncoding parts (records.flatMap Record.bytes) :=
  ⟨parts, records, fun _ => rfl, written, fits, rfl⟩

/-- A part that is the first of its number may be written first. -/
theorem IsEncoding.insert
    {before after : List Part}
    {part : Part}
    {record : Record}
    {bytes : Bytes}
    (differs : ∀ earlier ∈ before, earlier.number ≠ part.number)
    (written : part.WrittenAs record)
    (fits : record.Fits)
    (rest : IsEncoding (before ++ after) bytes) :
    IsEncoding (before ++ part :: after) (record.bytes ++ bytes) := by
  obtain ⟨order, records, interleaves, restWritten, restFits, rfl⟩ := rest
  refine ⟨part :: order, record :: records, ?_, .cons written restWritten, ?_, rfl⟩
  · exact (interleaves_cons_iff differs).mpr interleaves
  · intro other member
    rcases List.mem_cons.mp member with rfl | later
    · exact fits
    · exact restFits other later

/-- The parts of a value of an enum. -/
def enumValueParts (value : String × Int32) : List Part :=
  [.text 1 value.1, .int32 2 value.2]

end Descriptor

open Descriptor

/-- The code of a label. -/
def Label.code : Label → Int32
  | .optional =>
      1
  | .required =>
      2
  | .repeated =>
      3

/-- The parts of an enum. -/
def EnumDescriptor.parts (enum : EnumDescriptor) : List Part :=
  .text 1 enum.name ::
    enum.values.map fun value => .embedded 2 (IsEncoding (enumValueParts value))

/-- The parts of a field; what it does not have is not written. -/
def FieldDescriptor.parts (field : FieldDescriptor) : List Part :=
  [.text 1 field.name, .int32 3 field.number, .int32 4 field.label.code,
      .int32 5 field.type.code] ++
    field.typeName.toList.map (.text 6) ++
    field.oneofIndex.toList.map (.int32 9) ++
    [.text 10 field.jsonName]

/-- The parts of a method. -/
def MethodDescriptor.parts (method : MethodDescriptor) : List Part :=
  [.text 1 method.name, .text 2 method.inputType, .text 3 method.outputType,
    .flag 5 method.clientStreaming, .flag 6 method.serverStreaming]

/-- The parts of a service. -/
def ServiceDescriptor.parts (service : ServiceDescriptor) : List Part :=
  .text 1 service.name ::
    service.methods.map fun method => .embedded 2 (IsEncoding method.parts)

mutual

/-- The parts of a message. -/
def MessageDescriptor.parts : MessageDescriptor → List Part
  | ⟨name, fields, nestedTypes, enumTypes⟩ =>
      [.text 1 name] ++
        fields.map (fun field => .embedded 2 (IsEncoding field.parts)) ++
        MessageDescriptor.embeddedParts 3 nestedTypes ++
        enumTypes.map (fun enum => .embedded 4 (IsEncoding enum.parts))

/-- Messages as parts of one field number. -/
def MessageDescriptor.embeddedParts
    (number : UInt32) :
    List MessageDescriptor →
    List Part
  | [] =>
      []
  | message :: rest =>
      .embedded number (IsEncoding message.parts) ::
        MessageDescriptor.embeddedParts number rest

end

/-- The parts of a file; a level of the language that it does not state is not written. -/
def FileDescriptor.parts (file : FileDescriptor) : List Part :=
  [.text 1 file.name, .text 2 file.package] ++
    file.languageLevel.toList.map (.text 12) ++
    file.dependencies.map (.text 3) ++
    MessageDescriptor.embeddedParts 4 file.messageTypes ++
    file.enumTypes.map (fun enum => .embedded 5 (IsEncoding enum.parts)) ++
    file.services.map (fun service => .embedded 6 (IsEncoding service.parts))

/-- Whether bytes are an encoding of a file. -/
def FileDescriptor.IsEncoding
    (file : FileDescriptor)
    (bytes : Bytes) :
    Prop :=
  Descriptor.IsEncoding file.parts bytes

/-! ## Depth and types -/

mutual

/-- The length of the longest chain of messages one inside the other. -/
def MessageDescriptor.depth : MessageDescriptor → Nat
  | ⟨_, _, nestedTypes, _⟩ =>
      MessageDescriptor.listDepth nestedTypes + 1

/-- The length of the longest chain that starts in a list of messages. -/
def MessageDescriptor.listDepth : List MessageDescriptor → Nat
  | [] =>
      0
  | message :: rest =>
      max message.depth (MessageDescriptor.listDepth rest)

end

/-- The length of the longest chain of messages in a file. -/
def FileDescriptor.depth (file : FileDescriptor) : Nat :=
  MessageDescriptor.listDepth file.messageTypes

/-- Whether every field type, at any depth, is that of some code. -/
inductive MessageDescriptor.HasCodedTypes : MessageDescriptor → Prop where
  | intro
      {message : MessageDescriptor}
      (fields : ∀ field ∈ message.fields, ∃ code, field.type = .ofCode code)
      (nested :
        ∀ inner ∈ message.nestedTypes, MessageDescriptor.HasCodedTypes inner) :
      MessageDescriptor.HasCodedTypes message

/-- Whether every field type of the messages of a file is that of some code. -/
def FileDescriptor.HasCodedTypes (file : FileDescriptor) : Prop :=
  ∀ message ∈ file.messageTypes, message.HasCodedTypes

theorem MessageDescriptor.embeddedParts_eq_map
    (number : UInt32)
    (messages : List MessageDescriptor) :
    MessageDescriptor.embeddedParts number messages =
      messages.map fun message => .embedded number (Descriptor.IsEncoding message.parts) := by
  induction messages with
  | nil =>
      rfl
  | cons message rest inductionHypothesis =>
      rw [MessageDescriptor.embeddedParts, inductionHypothesis, List.map_cons]

theorem MessageDescriptor.embedded_mem_parts
    {message inner : MessageDescriptor}
    (member : inner ∈ message.nestedTypes) :
    .embedded 3 (Descriptor.IsEncoding inner.parts) ∈ message.parts := by
  obtain ⟨name, fields, nestedTypes, enumTypes⟩ := message
  rw [MessageDescriptor.parts, MessageDescriptor.embeddedParts_eq_map]
  apply List.mem_append_left
  apply List.mem_append_right
  exact List.mem_map_of_mem member

theorem FileDescriptor.embedded_mem_parts
    {file : FileDescriptor}
    {message : MessageDescriptor}
    (member : message ∈ file.messageTypes) :
    .embedded 4 (Descriptor.IsEncoding message.parts) ∈ file.parts := by
  rw [FileDescriptor.parts, MessageDescriptor.embeddedParts_eq_map]
  apply List.mem_append_left
  apply List.mem_append_left
  apply List.mem_append_right
  exact List.mem_map_of_mem member

theorem MessageDescriptor.listDepth_le_iff
    {messages : List MessageDescriptor}
    {bound : Nat} :
    MessageDescriptor.listDepth messages ≤ bound ↔
      ∀ message ∈ messages, message.depth ≤ bound := by
  induction messages with
  | nil =>
      simp [MessageDescriptor.listDepth]
  | cons message rest inductionHypothesis =>
      simp [MessageDescriptor.listDepth, inductionHypothesis]

theorem MessageDescriptor.lt_listDepth_iff
    {messages : List MessageDescriptor}
    {bound : Nat} :
    bound < MessageDescriptor.listDepth messages ↔
      ∃ message ∈ messages, bound < message.depth := by
  rw [← Nat.not_le, MessageDescriptor.listDepth_le_iff]
  simp only [not_forall, Nat.not_le, exists_prop]

theorem MessageDescriptor.depth_le_succ_iff
    {message : MessageDescriptor}
    {bound : Nat} :
    message.depth ≤ bound + 1 ↔
      ∀ inner ∈ message.nestedTypes, inner.depth ≤ bound := by
  obtain ⟨name, fields, nestedTypes, enumTypes⟩ := message
  rw [MessageDescriptor.depth, Nat.add_le_add_iff_right]
  exact MessageDescriptor.listDepth_le_iff

theorem MessageDescriptor.succ_lt_depth_iff
    {message : MessageDescriptor}
    {bound : Nat} :
    bound + 1 < message.depth ↔
      ∃ inner ∈ message.nestedTypes, bound < inner.depth := by
  obtain ⟨name, fields, nestedTypes, enumTypes⟩ := message
  rw [MessageDescriptor.depth, Nat.add_lt_add_iff_right]
  exact MessageDescriptor.lt_listDepth_iff

/-! ## Codes -/

@[simp] theorem Label.ofCode_code (label : Label) :
    Label.ofCode label.code = label := by
  cases label <;> rfl

/-- A code without a meaning is kept. -/
theorem FieldType.eq_of_ofCode_eq_unknown
    {code kept : Int32}
    (unknown : FieldType.ofCode code = .unknown kept) :
    kept = code := by
  unfold FieldType.ofCode at unknown
  split at unknown <;> cases unknown
  rfl

theorem FieldType.ofCode_code
    {type : FieldType}
    (coded : ∃ code, type = .ofCode code) :
    FieldType.ofCode type.code = type := by
  obtain ⟨code, rfl⟩ := coded
  cases shape : FieldType.ofCode code with
  | unknown kept =>
      obtain rfl := FieldType.eq_of_ofCode_eq_unknown shape
      exact shape
  | _ =>
      rfl

end GrpcDiscovery
