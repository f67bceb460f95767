import GrpcDiscovery.Proofs.Descriptor.Runs

namespace GrpcDiscovery.Descriptor

/-!
# The kinds of descriptors

There are seven kinds of descriptors, and they are read alike: records are read by
the kind's layout, and what they built is then finished into the descriptor. The
kinds differ in the tags that they interpret and in the kinds that they embed. A
fact about all decoders is stated over the kinds and proved of their layouts.
-/

/-- A kind of descriptor; messages by how many of them may nest, themselves included. -/
inductive Kind where
  | file
  | message (levels : Nat)
  | field
  | enum
  | enumValue
  | service
  | method
deriving DecidableEq, Repr

namespace Kind

/-- What a descriptor of a kind says. -/
abbrev Value : Kind → Type
  | .file =>
      FileDescriptor
  | .message _ =>
      MessageDescriptor
  | .field =>
      FieldDescriptor
  | .enum =>
      EnumDescriptor
  | .enumValue =>
      String × Int32
  | .service =>
      ServiceDescriptor
  | .method =>
      MethodDescriptor

/-- Read a descriptor of a kind. -/
def decode : (kind : Kind) → Bytes → Except DecodeFailure kind.Value
  | .file =>
      FileDescriptor.decode
  | .message levels =>
      decodeMessage levels
  | .field =>
      decodeField
  | .enum =>
      decodeEnum
  | .enumValue =>
      decodeEnumValue
  | .service =>
      decodeService
  | .method =>
      decodeMethod

/-- The tags whose records say something about a descriptor of a kind. -/
def interpreted : Kind → List Tag
  | .file =>
      [⟨1, .lengthDelimited⟩, ⟨2, .lengthDelimited⟩, ⟨3, .lengthDelimited⟩,
        ⟨4, .lengthDelimited⟩, ⟨5, .lengthDelimited⟩, ⟨6, .lengthDelimited⟩,
        ⟨12, .lengthDelimited⟩]
  | .message _ =>
      [⟨1, .lengthDelimited⟩, ⟨2, .lengthDelimited⟩, ⟨3, .lengthDelimited⟩,
        ⟨4, .lengthDelimited⟩]
  | .field =>
      [⟨1, .lengthDelimited⟩, ⟨3, .varint⟩, ⟨4, .varint⟩, ⟨5, .varint⟩,
        ⟨6, .lengthDelimited⟩, ⟨9, .varint⟩, ⟨10, .lengthDelimited⟩]
  | .enum =>
      [⟨1, .lengthDelimited⟩, ⟨2, .lengthDelimited⟩]
  | .enumValue =>
      [⟨1, .lengthDelimited⟩, ⟨2, .varint⟩]
  | .service =>
      [⟨1, .lengthDelimited⟩, ⟨2, .lengthDelimited⟩]
  | .method =>
      [⟨1, .lengthDelimited⟩, ⟨2, .lengthDelimited⟩, ⟨3, .lengthDelimited⟩,
        ⟨4, .varint⟩, ⟨5, .varint⟩, ⟨6, .varint⟩]

/-- The kinds that a kind embeds, by the field numbers of their records. -/
inductive Embeds : Kind → UInt32 → Kind → Prop where
  | fileMessage :
      Embeds .file 4 (.message Wire.nestingLimit)
  | fileEnum :
      Embeds .file 5 .enum
  | fileService :
      Embeds .file 6 .service
  | messageField
      {levels : Nat} :
      Embeds (.message (levels + 1)) 2 .field
  | nestedMessage
      {levels : Nat} :
      Embeds (.message (levels + 1)) 3 (.message levels)
  | messageEnum
      {levels : Nat} :
      Embeds (.message (levels + 1)) 4 .enum
  | enumValue :
      Embeds .enum 2 .enumValue
  | serviceMethod :
      Embeds .service 2 .method

/-! ## How a kind is read -/

/-- What the records of a descriptor build up. -/
abbrev Parts : Kind → Type
  | .field =>
      FieldParts
  | kind =>
      kind.Value

/-- How the records of a descriptor are read. -/
def layout : (kind : Kind) → Layout kind.Parts
  | .file =>
      fileLayout
  | .message levels =>
      messageLayout (decodeMessage (levels - 1))
  | .field =>
      fieldLayout
  | .enum =>
      enumLayout
  | .enumValue =>
      enumValueLayout
  | .service =>
      serviceLayout
  | .method =>
      methodLayout

/-- What there is of a descriptor before its first record. -/
def initial : (kind : Kind) → kind.Parts
  | .file =>
      ({} : FileDescriptor)
  | .message _ =>
      ({} : MessageDescriptor)
  | .field =>
      ({} : FieldParts)
  | .enum =>
      ({} : EnumDescriptor)
  | .enumValue =>
      ("", 0)
  | .service =>
      ({} : ServiceDescriptor)
  | .method =>
      ({} : MethodDescriptor)

/-- The descriptor that was built up. -/
def finish : (kind : Kind) → kind.Parts → kind.Value
  | .file =>
      id
  | .message _ =>
      id
  | .field =>
      FieldParts.field
  | .enum =>
      id
  | .enumValue =>
      id
  | .service =>
      id
  | .method =>
      id

/-- Read the records of a descriptor. -/
def read (kind : Kind) (bytes : Bytes) : Except DecodeFailure kind.Parts :=
  readRecords kind.layout kind.initial bytes

private theorem map_id_eq
    {α : Type}
    (result : Except DecodeFailure α) :
    result.map id = result := by
  cases result <;> rfl

/-- A kind that can be read at all is read by its layout. -/
theorem decode_eq_read
    {kind : Kind}
    (readable : kind ≠ .message 0)
    (bytes : Bytes) :
    kind.decode bytes = (kind.read bytes).map kind.finish := by
  cases kind with
  | message levels =>
      cases levels with
      | zero =>
          exact absurd rfl readable
      | succ levels =>
          exact (map_id_eq _).symm
  | field =>
      rfl
  | _ =>
      exact (map_id_eq _).symm

/-- The one kind that cannot be read is that of messages of which none may nest. -/
theorem decode_eq_or_error (kind : Kind) :
    (∀ bytes, kind.decode bytes = (kind.read bytes).map kind.finish) ∨
      ∃ failure, ∀ bytes, kind.decode bytes = .error failure := by
  by_cases unreadable : kind = .message 0
  · subst unreadable
    exact .inr ⟨_, fun _ => rfl⟩
  · exact .inl (decode_eq_read unreadable)

/-- A kind of which something was read is read by its layout. -/
theorem decode_eq_of_decode
    {kind : Kind}
    {first : Bytes}
    {descriptor : kind.Value}
    (decoded : kind.decode first = .ok descriptor)
    (bytes : Bytes) :
    kind.decode bytes = (kind.read bytes).map kind.finish := by
  obtain byLayout | ⟨failure, fails⟩ := kind.decode_eq_or_error
  · exact byLayout bytes
  · rw [fails] at decoded
    cases decoded

/-- What was read of a kind was finished from what its records built up. -/
theorem exists_read_of_decode
    {kind : Kind}
    {bytes : Bytes}
    {descriptor : kind.Value}
    (decoded : kind.decode bytes = .ok descriptor) :
    ∃ parts, kind.read bytes = .ok parts ∧ kind.finish parts = descriptor := by
  rw [decode_eq_of_decode decoded] at decoded
  cases reading : kind.read bytes with
  | error failure =>
      rw [reading] at decoded
      cases decoded
  | ok parts =>
      rw [reading] at decoded
      cases decoded
      exact ⟨parts, rfl, rfl⟩

/-- A record under a tag that is not interpreted says nothing. -/
theorem layout_eq_unrecognized
    {kind : Kind}
    {tag : Tag}
    (notInterpreted : tag ∉ kind.interpreted) :
    kind.layout tag = .unrecognized := by
  cases kind
  all_goals
    simp only [layout, fileLayout, messageLayout, fieldLayout, enumLayout,
      enumValueLayout, serviceLayout, methodLayout]
    split <;>
      first
      | rfl
      | simp [interpreted] at notInterpreted

/-- The component under a tag has payloads of the tag's wire type. -/
theorem layout_has
    (kind : Kind)
    (tag : Tag) :
    (kind.layout tag).Has tag.wireType := by
  cases kind
  all_goals
    simp only [layout, fileLayout, messageLayout, fieldLayout, enumLayout,
      enumValueLayout, serviceLayout, methodLayout]
    split <;>
      first
      | rfl
      | trivial

/-- The record of an embedded descriptor adds what its content is read as. -/
theorem Embeds.layout_eq
    {kind inner : Kind}
    {number : UInt32}
    (embeds : kind.Embeds number inner) :
    ∃ label add, kind.layout ⟨number, .lengthDelimited⟩ =
      collected label inner.decode add := by
  cases embeds <;> exact ⟨_, _, rfl⟩

end Kind

end GrpcDiscovery.Descriptor
