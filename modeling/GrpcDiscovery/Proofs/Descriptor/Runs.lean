import GrpcDiscovery.Descriptor.Decode
import GrpcDiscovery.Proofs.Wire.Records

namespace GrpcDiscovery.Descriptor

/-!
# Descriptors as runs of records

Each record changes the descriptor under construction, or ends the reading, by what
it is and not by where it stands. So the descriptor of a run is told from the list of
its records, what follows a run is read from the descriptor that the run led to, and
bytes that are no run fail in the same way whatever was read before.
-/

variable {σ : Type} {layout : Layout σ}

/-! ## What one record can do -/

/-- The changes that a component makes, whatever its payload says. -/
def Component.Makes : Component σ → (σ → σ) → Prop
  | .text set, change =>
      ∃ value, change = set value
  | .int32 set, change =>
      ∃ value, change = set value
  | .flag set, change =>
      ∃ value, change = set value
  | .embedded _ read, change =>
      ∃ content, read content = .ok change
  | .unrecognized, change =>
      change = id

/-- Whether a component, if it is one at all, has payloads of a wire type. -/
def Component.Has : Component σ → WireType → Prop
  | .text _, wireType =>
      wireType = .lengthDelimited
  | .int32 _, wireType =>
      wireType = .varint
  | .flag _, wireType =>
      wireType = .varint
  | .embedded _ _, wireType =>
      wireType = .lengthDelimited
  | .unrecognized, _ =>
      True

/-- A payload of the component's wire type makes one of the component's changes. -/
theorem Component.Has.makes
    {component : Component σ}
    {payload : Wire.Payload}
    {change : σ → σ}
    (has : component.Has payload.wireType)
    (changed : component.change payload = .ok change) :
    component.Makes change := by
  cases component with
  | text set =>
      cases payload <;> cases has
      rename_i content
      simp only [Component.change] at changed
      split at changed
      · cases changed
        exact ⟨_, rfl⟩
      · cases changed
  | int32 set =>
      cases payload <;> cases has
      cases changed
      exact ⟨_, rfl⟩
  | flag set =>
      cases payload <;> cases has
      cases changed
      exact ⟨_, rfl⟩
  | embedded label read =>
      cases payload <;> cases has
      rename_i content
      simp only [Component.change] at changed
      split at changed
      · cases changed
        exact ⟨content, by assumption⟩
      · cases changed
  | unrecognized =>
      cases changed
      rfl

/-- What is collected is added. -/
theorem exists_add_of_makes
    {α : Type}
    {label : String}
    {read : Bytes → Except DecodeFailure α}
    {add : α → σ → σ}
    {change : σ → σ}
    (makes : (collected label read add).Makes change) :
    ∃ value, change = add value := by
  obtain ⟨content, changed⟩ := makes
  cases valueRead : read content with
  | error failure =>
      simp only [valueRead] at changed
      cases changed
  | ok value =>
      simp only [valueRead] at changed
      cases changed
      exact ⟨value, rfl⟩

/-! ## One step of reading -/

theorem readRecords_nil (descriptor : σ) :
    readRecords layout descriptor [] = .ok descriptor := by
  rw [readRecords]
  rfl

/-- A tag that cannot be read is no component's failure. -/
theorem readRecords_of_tag_failed
    {bytes rest : Bytes}
    {cause : WireError}
    (notEmpty : bytes ≠ [])
    (tagFailed : Wire.readTag bytes = .error cause rest)
    (descriptor : σ) :
    readRecords layout descriptor bytes = .error (.here cause) := by
  rw [readRecords, if_neg (by simpa using notEmpty)]
  split
  · rename_i failed
    rw [tagFailed] at failed
    cases failed
    rfl
  · rename_i read
    rw [tagFailed] at read
    cases read

private theorem isEmpty_of_tag_read
    {bytes ahead : Bytes}
    {tag : Tag}
    (tagRead : Wire.readTag bytes = .ok tag ahead) :
    bytes.isEmpty = false := by
  have := Wire.readTag_shorter tagRead
  rw [List.isEmpty_eq_false_iff, ← List.length_pos_iff]
  omega

/-- A payload that cannot be read is a failure of the component that it belongs to. -/
theorem readRecords_of_payload_failed
    {bytes ahead rest : Bytes}
    {tag : Tag}
    {cause : WireError}
    (tagRead : Wire.readTag bytes = .ok tag ahead)
    (payloadFailed : Wire.readPayload tag ahead = .error cause rest)
    (descriptor : σ) :
    readRecords layout descriptor bytes = .error ((layout tag).locate cause) := by
  rw [readRecords, isEmpty_of_tag_read tagRead, if_neg Bool.false_ne_true]
  split
  · rename_i failed
    rw [tagRead] at failed
    cases failed
  · rename_i read
    rw [tagRead] at read
    cases read
    split
    · rename_i failed
      rw [payloadFailed] at failed
      cases failed
      rfl
    · rename_i read
      rw [payloadFailed] at read
      cases read

/-- A record that can be read changes the descriptor, and reading goes on behind it. -/
theorem readRecords_of_read
    {bytes ahead rest : Bytes}
    {tag : Tag}
    {payload : Wire.Payload}
    (tagRead : Wire.readTag bytes = .ok tag ahead)
    (payloadRead : Wire.readPayload tag ahead = .ok payload rest)
    (descriptor : σ) :
    readRecords layout descriptor bytes =
      match (layout tag).change payload with
      | .error failure =>
          .error failure
      | .ok change =>
          readRecords layout (change descriptor) rest := by
  rw [readRecords, isEmpty_of_tag_read tagRead, if_neg Bool.false_ne_true]
  split
  · rename_i failed
    rw [tagRead] at failed
    cases failed
  · rename_i read
    rw [tagRead] at read
    cases read
    split
    · rename_i failed
      rw [payloadRead] at failed
      cases failed
    · rename_i read
      rw [payloadRead] at read
      cases read
      rfl

/-! ## Records one after the other -/

/-- The change that a record makes to a descriptor, or why it cannot be made. -/
def Layout.effect
    (layout : Layout σ)
    (record : Wire.Record) :
    Except DecodeFailure (σ → σ) :=
  (layout record.tag).change record.payload

/-- The descriptor after records one after the other. -/
def Layout.apply
    (layout : Layout σ)
    (descriptor : σ) :
    List Wire.Record →
    Except DecodeFailure σ
  | [] =>
      .ok descriptor
  | record :: records =>
      match layout.effect record with
      | .error failure =>
          .error failure
      | .ok change =>
          layout.apply (change descriptor) records

/-- Reading starts with the effect of the first record and goes on behind it. -/
theorem readRecords_of_isRecord
    {record : Wire.Record}
    {bytes : Bytes}
    (isRecord : Wire.IsRecord record bytes)
    (descriptor : σ)
    (rest : Bytes) :
    readRecords layout descriptor (bytes ++ rest) =
      match layout.effect record with
      | .error failure =>
          .error failure
      | .ok change =>
          readRecords layout (change descriptor) rest := by
  obtain ⟨ahead, tagRead, payloadRead⟩ := isRecord.exists_read rest
  rw [readRecords_of_read tagRead payloadRead, Layout.effect]

/-- What follows a run is read from the descriptor that the run led to. -/
theorem readRecords_of_isRun
    {records : List Wire.Record}
    {run : Bytes}
    (isRun : Wire.IsRun records run)
    (descriptor : σ)
    (rest : Bytes) :
    readRecords layout descriptor (run ++ rest) =
      match layout.apply descriptor records with
      | .error failure =>
          .error failure
      | .ok reached =>
          readRecords layout reached rest := by
  induction isRun generalizing descriptor with
  | nothing =>
      rfl
  | record isRecord _ inductionHypothesis =>
      rw [List.append_assoc, readRecords_of_isRecord isRecord, Layout.apply]
      split
      · rfl
      · exact inductionHypothesis _

/-- Bytes that begin with no record fail in the same way for every descriptor. -/
theorem exists_failure_of_beginsWithoutRecord
    (layout : Layout σ)
    {bytes : Bytes}
    (noRecord : Wire.BeginsWithoutRecord bytes)
    (notEmpty : bytes ≠ []) :
    ∃ failure, ∀ descriptor : σ, readRecords layout descriptor bytes = .error failure := by
  cases tagRead : Wire.readTag bytes with
  | error cause _ =>
      exact ⟨.here cause, readRecords_of_tag_failed notEmpty tagRead⟩
  | ok tag ahead =>
      cases payloadRead : Wire.readPayload tag ahead with
      | error cause _ =>
          exact ⟨(layout tag).locate cause, readRecords_of_payload_failed tagRead payloadRead⟩
      | ok payload rest =>
          obtain ⟨consumed, isRecord, _, rfl⟩ :=
            Wire.exists_isRecord_of_read tagRead payloadRead
          exact absurd (List.prefix_append consumed rest) (noRecord _ consumed isRecord)

/-- What is read to the end is a run, whose records led to what was read. -/
theorem isRun_of_readRecords
    {descriptor reached : σ}
    {bytes : Bytes}
    (read : readRecords layout descriptor bytes = .ok reached) :
    Wire.IsRun (Wire.recordsOf bytes) bytes ∧
      layout.apply descriptor (Wire.recordsOf bytes) = .ok reached := by
  obtain ⟨run, rest, isRun, noRecord, shape⟩ := Wire.exists_isRun_recordsOf bytes
  have reading : readRecords layout descriptor (run ++ rest) = .ok reached := by
    rw [← shape, read]
  rw [readRecords_of_isRun isRun] at reading
  split at reading
  · cases reading
  · rename_i middle applied
    by_cases atEnd : rest = []
    · subst atEnd
      rw [readRecords_nil] at reading
      cases reading
      rw [List.append_nil] at shape
      exact ⟨shape ▸ isRun, applied⟩
    · obtain ⟨failure, fails⟩ :=
        exists_failure_of_beginsWithoutRecord layout noRecord atEnd
      rw [fails] at reading
      cases reading

/-- What follows bytes that are read to the end is read from where they led to. -/
theorem readRecords_append
    {descriptor reached : σ}
    {first : Bytes}
    (read : readRecords layout descriptor first = .ok reached)
    (second : Bytes) :
    readRecords layout descriptor (first ++ second) = readRecords layout reached second := by
  obtain ⟨isRun, applied⟩ := isRun_of_readRecords read
  rw [readRecords_of_isRun isRun, applied]

end GrpcDiscovery.Descriptor
