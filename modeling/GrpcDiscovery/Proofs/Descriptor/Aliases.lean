import GrpcDiscovery.Proofs.Descriptor.Records
import GrpcDiscovery.Proofs.Descriptor.Unrecognized
import GrpcDiscovery.Proofs.Wire.Tags

namespace GrpcDiscovery.Descriptor

/-!
# Records under wide field numbers

Decoders tell records apart by their tags, and a tag keeps thirty-two bits of the field
number that a record carries. So a record with a wider number is taken for one with the
number that is kept. If a component has this number with the wire type of the record, the
record is read as that component; otherwise it is read over. Only a number of thirty-two
bits is sure to be the record's own.

That a record is read over means that no decoder can tell whether it is there. What an
interpreted record says, on the other hand, shows in some descriptor.
-/

/-! ## What shows in a descriptor -/

/--
Whether all that a component reads shows. A value does in the descriptor that has
another one so far, which can be written, and an embedded descriptor does in the one that
has no records.
-/
def Component.Shows
    {σ α : Type}
    (component : Component σ)
    (finish : σ → α)
    (initial : σ) :
    Prop :=
  match component with
  | .text set =>
      ∀ value, ∃ other, (Utf8.encode other).length < 2 ^ 64 ∧
        finish (set value (set other initial)) ≠ finish (set other initial)
  | .int32 set =>
      ∀ value, ∃ other, finish (set value (set other initial)) ≠ finish (set other initial)
  | .flag set =>
      ∀ value, ∃ other, finish (set value (set other initial)) ≠ finish (set other initial)
  | .embedded _ read =>
      ∀ content change, read content = .ok change → finish (change initial) ≠ finish initial
  | .unrecognized =>
      False

section Shows

variable {σ α β : Type} {finish : σ → α} {initial : σ}

/-- Texts show when those that differ make a difference. -/
theorem shows_text
    {set : String → σ → σ}
    (differ : ∀ value other, value ≠ other →
      finish (set value (set other initial)) ≠ finish (set other initial)) :
    (Component.text set).Shows finish initial := by
  intro value
  by_cases empty : value = ""
  · exact ⟨"a", by decide, differ _ _ (by rw [empty]; decide)⟩
  · exact ⟨"", by decide, differ _ _ empty⟩

/-- Numbers show when their meanings make a difference, and not all mean the same. -/
theorem shows_int32
    {set : Int32 → σ → σ}
    (meaning : Int32 → β)
    (notAlike : meaning 1 ≠ meaning 2)
    (differ : ∀ value other, meaning value ≠ meaning other →
      finish (set value (set other initial)) ≠ finish (set other initial)) :
    (Component.int32 set).Shows finish initial := by
  intro value
  by_cases likeOne : meaning value = meaning 1
  · exact ⟨2, differ _ _ (likeOne ▸ notAlike)⟩
  · exact ⟨1, differ _ _ likeOne⟩

theorem shows_flag
    {set : Bool → σ → σ}
    (differ : ∀ value,
      finish (set value (set (!value) initial)) ≠ finish (set (!value) initial)) :
    (Component.flag set).Shows finish initial :=
  fun value => ⟨!value, differ value⟩

/-- Embedded descriptors show when adding one makes a difference. -/
theorem shows_collected
    {γ : Type}
    {label : String}
    {read : Bytes → Except DecodeFailure γ}
    {add : γ → σ → σ}
    (grows : ∀ value, finish (add value initial) ≠ finish initial) :
    (collected label read add).Shows finish initial := by
  intro content change changed
  have makes : (collected label read add).Makes change := ⟨content, changed⟩
  obtain ⟨value, rfl⟩ := exists_add_of_makes makes
  exact grows value

end Shows

namespace Kind

variable {kind : Kind}

/-- What the record of an interpreted tag says shows. -/
theorem layout_shows
    {tag : Tag}
    (isInterpreted : tag ∈ kind.interpreted) :
    (kind.layout tag).Shows kind.finish kind.initial := by
  cases kind
  all_goals
    simp only [interpreted, List.mem_cons, List.not_mem_nil, or_false] at isInterpreted
    rcases isInterpreted with rfl | rfl | rfl | rfl | rfl | rfl | rfl
  -- A label and a type go by what their code means; other numbers mean themselves.
  all_goals
    first
    | refine shows_text fun value other differs => ?_
      simp [finish, FieldParts.field, initial, differs]
    | refine shows_flag fun value => ?_
      simp [finish, initial]
    | refine shows_collected fun value => ?_
      simp [finish, initial]
    | refine shows_int32 id (by decide) fun value other differs => ?_
      simpa [finish, FieldParts.field, initial] using differs
    | refine shows_int32 Label.ofCode (by decide) fun value other differs => ?_
      simpa [finish, FieldParts.field] using differs
    | refine shows_int32 FieldType.ofCode (by decide) fun value other differs => ?_
      simpa [finish, FieldParts.field] using differs

/-! ## Records that are read alike -/

/--
Whether bytes can be replaced by other ones wherever the bytes before them decode on
their own, whatever follows.
-/
def ReadsAlike
    (kind : Kind)
    (first second : Bytes) :
    Prop :=
  ∀ before after descriptor, kind.decode before = .ok descriptor →
    kind.decode (before ++ first ++ after) = kind.decode (before ++ second ++ after)

/-- Whether bytes are read over: with them anything is read as it is without them. -/
def ReadsOver
    (kind : Kind)
    (bytes : Bytes) :
    Prop :=
  kind.ReadsAlike bytes []

section Record

variable {record : Wire.Record} {bytes other : Bytes}

theorem isUnrecognized_of_isRecord
    (isRecord : Wire.IsRecord record bytes)
    (notInterpreted : record.tag ∉ kind.interpreted) :
    kind.IsUnrecognized bytes := by
  obtain ⟨content, tagRead, payloadRead⟩ := isRecord.exists_read []
  rw [List.append_nil] at tagRead
  exact ⟨record.tag, content, tagRead, notInterpreted,
    Wire.bind_eq_ok_iff.mpr ⟨record.payload, [], payloadRead, rfl⟩⟩

theorem readsOver_of_not_interpreted
    (isRecord : Wire.IsRecord record bytes)
    (notInterpreted : record.tag ∉ kind.interpreted) :
    kind.ReadsOver bytes := by
  intro before after descriptor decoded
  rw [List.append_nil]
  exact decode_eq_of_read_eq (read_insert (isRun_of_decode decoded)
    (isUnrecognized_of_isRecord isRecord notInterpreted) after)

/-- A part that was written is read as the change that it stands for. -/
theorem read_part
    {entry : PartChange kind.Parts}
    {written : Descriptor.Record}
    (isRead : entry.IsReadBy kind.layout)
    (isWritten : entry.part.WrittenAs written)
    (fits : written.Fits) :
    kind.read written.bytes = .ok (entry.change kind.initial) := by
  rw [read, ← List.append_nil written.bytes, readRecords_cons fits, isRead written isWritten]
  exact readRecords_nil _

/-- What an interpreted record says shows in some descriptor. -/
theorem exists_shown
    {change : kind.Parts → kind.Parts}
    (isInterpreted : record.tag ∈ kind.interpreted)
    (effect : kind.layout.effect record = .ok change) :
    ∃ before parts, kind.read before = .ok parts ∧
      kind.finish (change parts) ≠ kind.finish parts := by
  have shows := layout_shows isInterpreted
  have has := kind.layout_has record.tag
  have makes := has.makes effect
  have sameTag {wireType : WireType} (same : record.payload.wireType = wireType) :
      record.tag = ⟨record.number, wireType⟩ :=
    congrArg (Tag.mk record.number) same
  cases component : kind.layout record.tag with
  | text set =>
      rw [component] at shows has makes
      rw [sameTag has] at component
      obtain ⟨value, rfl⟩ := makes
      obtain ⟨other, fits, differs⟩ := shows value
      exact ⟨_, _, read_part (PartChange.text_isReadBy component other) (.text _ _) fits, differs⟩
  | int32 set =>
      rw [component] at shows has makes
      rw [sameTag has] at component
      obtain ⟨value, rfl⟩ := makes
      obtain ⟨other, differs⟩ := shows value
      exact ⟨_, _, read_part (PartChange.int32_isReadBy component other) (.int32 _ _) trivial,
        differs⟩
  | flag set =>
      rw [component] at shows has makes
      rw [sameTag has] at component
      obtain ⟨value, rfl⟩ := makes
      obtain ⟨other, differs⟩ := shows value
      exact ⟨_, _, read_part (PartChange.flag_isReadBy component other) (.flag _ _) trivial,
        differs⟩
  | embedded label read =>
      rw [component] at shows makes
      obtain ⟨content, changed⟩ := makes
      exact ⟨[], kind.initial, readRecords_nil _, shows content change changed⟩
  | unrecognized =>
      rw [component] at shows
      exact shows.elim

/-- A record that is read over makes no change that shows. -/
theorem ReadsOver.exists_effect
    {before : Bytes}
    {parts : kind.Parts}
    (readsOver : kind.ReadsOver bytes)
    (readable : kind ≠ .message 0)
    (isRecord : Wire.IsRecord record bytes)
    (reading : kind.read before = .ok parts) :
    ∃ change, kind.layout.effect record = .ok change ∧
      kind.finish (change parts) = kind.finish parts := by
  have decoded : kind.decode before = .ok (kind.finish parts) := by
    rw [decode_eq_read readable, reading]
    rfl
  have same := readsOver before [] _ decoded
  simp only [List.append_nil] at same
  rw [decoded, decode_eq_read readable, read, readRecords_append reading,
    ← List.append_nil bytes, readRecords_of_isRecord isRecord] at same
  cases effect : kind.layout.effect record with
  | error failure =>
      rw [effect] at same
      cases same
  | ok change =>
      rw [effect] at same
      simp only [readRecords_nil, Except.map, Except.ok.injEq] at same
      exact ⟨change, rfl, same⟩

/-- A record is read over exactly if its tag is not interpreted, or nothing is read at all. -/
theorem readsOver_iff
    (isRecord : Wire.IsRecord record bytes) :
    kind.ReadsOver bytes ↔ kind = .message 0 ∨ record.tag ∉ kind.interpreted := by
  constructor
  · intro readsOver
    by_contra both
    obtain ⟨readable, interpreted⟩ := not_or.mp both
    obtain ⟨change, effect, _⟩ :=
      readsOver.exists_effect readable isRecord (readRecords_nil kind.initial)
    obtain ⟨before, parts, reading, differs⟩ :=
      exists_shown (not_not.mp interpreted) effect
    obtain ⟨_, sameEffect, unchanged⟩ := readsOver.exists_effect readable isRecord reading
    rw [effect] at sameEffect
    cases sameEffect
    exact differs unchanged
  · rintro (rfl | notInterpreted)
    · intro before after descriptor decoded
      cases decoded
    · exact readsOver_of_not_interpreted isRecord notInterpreted

end Record

/-! ## Numbers on the wire -/

/-- Whether a component of a kind has a field number, under whatever wire type. -/
def Recognizes
    (kind : Kind)
    (number : Nat) :
    Prop :=
  ∃ tag ∈ kind.interpreted, tag.number.toNat = number

instance (kind : Kind) (number : Nat) : Decidable (kind.Recognizes number) :=
  inferInstanceAs (Decidable (∃ tag ∈ kind.interpreted, tag.number.toNat = number))

section Key

variable {record : Wire.Record} {bytes opening ahead rest : Bytes} {key : UInt64} {tag : Tag}

/-- Nothing of an opening is read but its tag, whatever follows. -/
theorem readsAlike_of_readTag
    {other : Bytes}
    (tagRead : ∀ after, Wire.readTag (opening ++ after) = .ok tag after)
    (otherRead : ∀ after, Wire.readTag (other ++ after) = .ok tag after) :
    kind.ReadsAlike opening other := by
  intro before after descriptor decoded
  have fromHere (parts : kind.Parts) :
      readRecords kind.layout parts (opening ++ after) =
        readRecords kind.layout parts (other ++ after) := by
    cases payloadRead : Wire.readPayload tag after with
    | error cause rest =>
        rw [readRecords_of_payload_failed (tagRead after) payloadRead,
          readRecords_of_payload_failed (otherRead after) payloadRead]
    | ok payload rest =>
        rw [readRecords_of_read (tagRead after) payloadRead,
          readRecords_of_read (otherRead after) payloadRead]
  apply decode_eq_of_read_eq
  simp only [read, List.append_assoc, readRecords_of_isRun (isRun_of_decode decoded), fromHere]

/-- The bytes that are taken for a tag are read like those that are written of it. -/
theorem readsAlike_writeTag
    (tagRead : Wire.readTag (opening ++ rest) = .ok tag rest) :
    kind.ReadsAlike opening (Wire.writeTag tag) := by
  obtain ⟨consumed, isTag, shape⟩ := Wire.readTag_eq_ok_iff.mp tagRead
  rw [List.append_cancel_right shape]
  exact readsAlike_of_readTag isTag.read (Wire.readTag_writeTag tag)

/-- A record has the tag that is read where the record begins. -/
theorem tag_eq_of_isRecord
    (isRecord : Wire.IsRecord record bytes)
    (isPrefix : bytes <+: ahead)
    (tagRead : Wire.readTag ahead = .ok tag rest) :
    record.tag = tag := by
  obtain ⟨behind, rfl⟩ := isPrefix
  obtain ⟨_, recordTagRead, _⟩ := isRecord.exists_read behind
  rw [tagRead] at recordTagRead
  cases recordTagRead
  rfl

/-- A record is read over exactly if its integer agrees with that of no interpreted tag. -/
theorem readsOver_iff_key
    (isRecord : Wire.IsRecord record bytes)
    (sameBits : key.toNat % 2 ^ 35 = record.tag.key) :
    kind.ReadsOver bytes ↔
      kind = .message 0 ∨ ∀ known ∈ kind.interpreted, key.toNat % 2 ^ 35 ≠ known.key := by
  rw [readsOver_iff isRecord, sameBits]
  refine or_congr_right ⟨fun notInterpreted known member same => ?_, fun foreign member => ?_⟩
  · rw [Tag.key_injective same] at notInterpreted
    exact notInterpreted member
  · exact foreign record.tag member rfl

/-- A record is read over if it has a number of thirty-two bits that no component has. -/
theorem readsOver_of_not_recognizes
    (isRecord : Wire.IsRecord record bytes)
    (sameBits : key.toNat % 2 ^ 35 = record.tag.key)
    (fits : key.toNat < 2 ^ 35)
    (notRecognized : ¬ kind.Recognizes (key.toNat / 8)) :
    kind.ReadsOver bytes := by
  refine (readsOver_iff_key isRecord sameBits).mpr (.inr fun known member same => ?_)
  refine notRecognized ⟨known, member, ?_⟩
  have code := known.wireType.code_lt
  rw [Tag.key] at same
  omega

end Key

/--
Where a tag is read, an integer is read as well. It agrees with the tag in its low
thirty-five bits, and it is the tag's own integer if and only if it has no more than
these: all integers that agree with it so far are read as the same tag, and no others.

So the bytes of the tag are read like those that are written of it, whatever follows. A
complete record that begins there is read over by a kind of descriptor exactly if the
integer agrees with no tag that the kind interprets, or the kind is that of messages of
which none may nest. In particular a record is read over whose field number the kind does
not recognize, provided that the number has thirty-two bits.
-/
theorem tags_areFaithful_iff
    (kind : Kind)
    (buffer : Bytes)
    (position : Nat)
    (tag : Tag)
    (tagRead :
      ((Wire.Cursor.ofPosition buffer position).advance .tag).1 = .ok (.tag tag)) :
    let cursor := Wire.Cursor.ofPosition buffer position
    ∃ key, Wire.IsTagAt buffer position key tag ∧
      (cursor.advance .varint).2 = (cursor.advance .tag).2 ∧
      key.toNat % 2 ^ 35 = 8 * tag.number.toNat + tag.wireType.code ∧
      (key.toNat = 8 * tag.number.toNat + tag.wireType.code ↔ key.toNat < 2 ^ 35) ∧
      (∀ other otherPosition otherKey otherTag,
        Wire.IsTagAt other otherPosition otherKey otherTag →
        (otherTag = tag ↔ otherKey.toNat % 2 ^ 35 = key.toNat % 2 ^ 35)) ∧
      (∀ otherKey : UInt64, otherKey.toNat % 2 ^ 35 = key.toNat % 2 ^ 35 →
        ∀ before suffix,
          Wire.IsTagAt (before ++ (Wire.writeVarint otherKey ++ suffix)) before.length
            otherKey tag) ∧
      (∀ opening, cursor.rest = opening ++ (cursor.advance .tag).2.rest →
        kind.ReadsAlike opening (Wire.writeTag tag)) ∧
      (∀ record bytes, Wire.IsRecord record bytes → bytes <+: cursor.rest →
        (kind.ReadsOver bytes ↔
            kind = .message 0 ∨
              ∀ known ∈ kind.interpreted,
                key.toNat % 2 ^ 35 ≠ 8 * known.number.toNat + known.wireType.code) ∧
          (key.toNat < 2 ^ 35 → ¬ kind.Recognizes (key.toNat / 8) →
            kind.ReadsOver bytes)) := by
  intro cursor
  obtain ⟨key, isTagAt, sameCursor⟩ := Wire.exists_isTagAt tagRead
  have sameBits := isTagAt.key_mod
  have read : Wire.readTag cursor.rest = .ok tag (cursor.advance .tag).2.rest :=
    Wire.reader_tag_eq_ok_iff.mp (Wire.Cursor.reader_of_advance_ok (Prod.ext tagRead rfl)).2
  refine ⟨key, isTagAt, sameCursor, sameBits, isTagAt.key_eq_iff,
    fun _ _ _ _ isOtherTagAt => isOtherTagAt.tag_eq_iff isTagAt,
    fun otherKey same => Wire.isTagAt_writeVarint (same.trans sameBits),
    fun opening shape => readsAlike_writeTag (shape ▸ read),
    fun record bytes isRecord isPrefix => ?_⟩
  have recordBits : key.toNat % 2 ^ 35 = record.tag.key := by
    rw [tag_eq_of_isRecord isRecord isPrefix read, sameBits]
  exact ⟨readsOver_iff_key isRecord recordBits, readsOver_of_not_recognizes isRecord recordBits⟩

/-- The integer of the number `2 ^ 32 + 1` with the wire type of a length. -/
def wideKey : UInt64 :=
  0x80000000a

/-- The opening of a record with this integer. -/
def wideOpening : Bytes :=
  [0x8a, 0x80, 0x80, 0x80, 0x80, 0x01]

/-- A text `x` under this number. -/
def wideName : Bytes :=
  wideOpening ++ [1, 0x78]

theorem isTagAt_wideName :
    Wire.IsTagAt wideName 0 wideKey ⟨1, .lengthDelimited⟩ :=
  ⟨rfl, rfl⟩

theorem isTagAt_plainField :
    Wire.IsTagAt plainField 0 10 ⟨1, .lengthDelimited⟩ :=
  ⟨rfl, rfl⟩

theorem isRecord_wideName :
    Wire.IsRecord ⟨1, .lengthDelimited [0x78]⟩ wideName :=
  Wire.isRecord_of_read rfl rfl

/--
The wide number is read as the number of a name. So its integer and that of a name are
read as one tag, its opening is read like that of a name, and the record is not read
over, though a file has no component with its number. A record under the number 7 is.
-/
theorem tags_areFaithful_iff_wideName :
    (∃ key, Wire.IsTagAt wideName 0 key ⟨1, .lengthDelimited⟩ ∧
      key.toNat ≠ 8 * 1 + 2 ∧ (10 : UInt64).toNat % 2 ^ 35 = key.toNat % 2 ^ 35 ∧
      Wire.IsTagAt (Wire.writeVarint wideKey) 0 wideKey ⟨1, .lengthDelimited⟩) ∧
    Kind.file.ReadsAlike wideOpening (Wire.writeTag ⟨1, .lengthDelimited⟩) ∧
    ¬ Kind.file.Recognizes (wideKey.toNat / 8) ∧ ¬ Kind.file.ReadsOver wideName ∧
    ¬ Kind.file.Recognizes 7 ∧ Kind.file.ReadsOver strayNumber := by
  obtain ⟨key, isTagAt, _, _, faithful, oneTag, written, alike, ofRecord⟩ :=
    tags_areFaithful_iff .file wideName 0 _ isTagAt_wideName.tag_read
  cases isTagAt.key_read.symm.trans isTagAt_wideName.key_read
  obtain ⟨strayKey, isStrayTagAt, _, _, _, _, _, _, ofStrayRecord⟩ :=
    tags_areFaithful_iff .file strayNumber 0 ⟨7, .varint⟩ rfl
  have wide := ofRecord _ wideName isRecord_wideName (List.prefix_refl _)
  have stray := ofStrayRecord ⟨7, .varint 5⟩ strayNumber (Wire.isRecord_of_read rfl rfl)
    (List.prefix_refl _)
  cases isStrayTagAt.key_read
  refine ⟨⟨_, isTagAt, fun same => ?_, ?_, ?_⟩, ?_, by decide, fun readOver => ?_, by decide, ?_⟩
  · exact absurd (faithful.mp same) (by decide)
  · exact (oneTag _ _ _ _ isTagAt_plainField).mp rfl
  · exact written wideKey rfl [] []
  · exact alike wideOpening rfl
  · exact absurd (wide.1.mp readOver) (by decide)
  · exact stray.2 (by decide) (by decide)

/--
Not every tag is faithful to the integer that it was read from, different integers are
read as one tag, and a record with a number that no component of a file has is read as a
name.
-/
theorem not_forall_tags_areFaithful :
    (¬ ∀ buffer position key tag, Wire.IsTagAt buffer position key tag →
      key.toNat = 8 * tag.number.toNat + tag.wireType.code) ∧
    (¬ ∀ buffer position key other otherPosition otherKey tag,
      Wire.IsTagAt buffer position key tag → Wire.IsTagAt other otherPosition otherKey tag →
      key = otherKey) ∧
    (¬ ∀ (kind : Kind) buffer position key tag record bytes,
      Wire.IsTagAt buffer position key tag → Wire.IsRecord record bytes →
      bytes <+: buffer.drop position → ¬ kind.Recognizes (key.toNat / 8) →
      kind.ReadsOver bytes) ∧
    (FileDescriptor.decode wideName).map FileDescriptor.name = .ok "x" := by
  have decoded : (FileDescriptor.decode wideName).map FileDescriptor.name = .ok "x" := by
    decide +kernel
  refine ⟨fun always => ?_, fun always => ?_, fun always => ?_, decoded⟩
  · exact absurd (always _ _ _ _ isTagAt_wideName) (by decide)
  · exact absurd (always _ _ _ _ _ _ _ isTagAt_wideName isTagAt_plainField) (by decide)
  · have readsOver : Kind.file.ReadsOver wideName :=
      always .file _ _ _ _ _ _ isTagAt_wideName isRecord_wideName (List.prefix_refl _)
        (by decide)
    have nothing : FileDescriptor.decode [] = .ok {} := readRecords_nil _
    have same : FileDescriptor.decode wideName = FileDescriptor.decode [] :=
      readsOver [] [] _ nothing
    rw [same, nothing] at decoded
    exact absurd decoded (by decide)

end Kind

end GrpcDiscovery.Descriptor
