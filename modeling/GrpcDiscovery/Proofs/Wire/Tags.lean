import GrpcDiscovery.Proofs.Wire.Bounds

namespace GrpcDiscovery

/-!
# Tags and their integers

A tag is made of an integer: the low three bits are the wire type, and the field number
stands above them. As many as sixty-one bits are left for it, of which thirty-two are
kept. So a tag tells its integer modulo `2 ^ 35` and no further: integers that are equal
in their low thirty-five bits are read as one tag, and only the least of them is the
integer that the tag stands for.
-/

/-! ## The integer of a tag -/

/-- The integer that a tag stands for: eight times the field number, and the wire type. -/
def Tag.key (tag : Tag) : Nat :=
  8 * tag.number.toNat + tag.wireType.code

theorem WireType.code_lt (wireType : WireType) :
    wireType.code < 8 := by
  cases wireType <;> decide

theorem WireType.code_injective :
    Function.Injective WireType.code := by
  intro first second same
  have known := Wire.ofCode?_code first
  rw [same, Wire.ofCode?_code] at known
  exact (Option.some.inj known).symm

theorem Tag.key_lt (tag : Tag) :
    tag.key < 2 ^ 35 := by
  have := tag.number.toNat_lt
  have := tag.wireType.code_lt
  rw [Tag.key]
  omega

/-- Different tags stand for different integers. -/
theorem Tag.key_injective :
    Function.Injective Tag.key := by
  intro first second same
  have firstCode := first.wireType.code_lt
  have secondCode := second.wireType.code_lt
  rw [Tag.key, Tag.key] at same
  have number : first.number = second.number :=
    UInt32.toNat_inj.mp (by omega)
  have wireType : first.wireType = second.wireType :=
    WireType.code_injective (by omega)
  cases first
  cases second
  rw [Tag.mk.injEq]
  exact ⟨number, wireType⟩

namespace Wire

/-! ## Reading a tag -/

section Reading

variable {bytes rest : Bytes} {key : UInt64} {tag : Tag}

/-- The bytes of a tag make up an integer that is the tag's in its low thirty-five bits. -/
theorem IsTag.varintValue_mod
    {opening : Bytes}
    (isTag : IsTag tag opening) :
    varintValue opening % 2 ^ 35 = tag.key := by
  have number := congrArg UInt32.toNat isTag.number
  rw [UInt32.toNat_ofNat'] at number
  have code := isTag.wireType
  rw [Tag.key]
  omega

/-- A tag is read exactly if an integer is that agrees with it in the low thirty-five bits. -/
theorem readTag_eq_ok_iff_key :
    readTag bytes = .ok tag rest ↔
      ∃ key, readVarint bytes = .ok key rest ∧ key.toNat % 2 ^ 35 = tag.key := by
  simp only [readTag_eq_ok_iff, readVarint_eq_ok_iff]
  constructor
  · rintro ⟨opening, isTag, rfl⟩
    refine ⟨_, ⟨opening, isTag.isVarint, rfl, rfl⟩, ?_⟩
    rw [UInt64.toNat_ofNat', Nat.mod_mod_of_dvd _ (by decide), isTag.varintValue_mod]
  · rintro ⟨_, ⟨opening, isVarint, rfl, rfl⟩, sameBits⟩
    rw [UInt64.toNat_ofNat', Nat.mod_mod_of_dvd _ (by decide), Tag.key] at sameBits
    have code := tag.wireType.code_lt
    refine ⟨opening, ⟨isVarint, by omega, ?_⟩, rfl⟩
    rw [← UInt32.toNat_inj, UInt32.toNat_ofNat']
    omega

/-- Where an integer is read and a tag as well, they agree. -/
theorem key_mod_of_read
    {content : Bytes}
    (keyRead : readVarint bytes = .ok key content)
    (tagRead : readTag bytes = .ok tag rest) :
    key.toNat % 2 ^ 35 = tag.key := by
  obtain ⟨other, otherRead, sameBits⟩ := readTag_eq_ok_iff_key.mp tagRead
  rw [keyRead] at otherRead
  cases otherRead
  exact sameBits

end Reading

/-! ## Tags at a position -/

/-- Whether an integer stands at a position of a buffer and is read as a tag there. -/
structure IsTagAt
    (buffer : Bytes)
    (position : Nat)
    (key : UInt64)
    (tag : Tag) :
    Prop where
  key_read : ((Cursor.ofPosition buffer position).advance .varint).1 = .ok (.varint key)
  tag_read : ((Cursor.ofPosition buffer position).advance .tag).1 = .ok (.tag tag)

section Position

variable {buffer other : Bytes} {position otherPosition : Nat} {key otherKey : UInt64}
  {tag otherTag : Tag}

theorem reader_varint_eq_ok_iff
    {bytes rest : Bytes} :
    Step.varint.reader bytes = .ok (.varint key) rest ↔ readVarint bytes = .ok key rest :=
  bind_pure_eq_ok_iff.trans (by simp)

theorem reader_tag_eq_ok_iff
    {bytes rest : Bytes} :
    Step.tag.reader bytes = .ok (.tag tag) rest ↔ readTag bytes = .ok tag rest :=
  bind_pure_eq_ok_iff.trans (by simp)

/-- Where a tag is read, an integer is, and the cursor moves as far. -/
theorem exists_isTagAt
    (tagRead : ((Cursor.ofPosition buffer position).advance .tag).1 = .ok (.tag tag)) :
    ∃ key, IsTagAt buffer position key tag ∧
      ((Cursor.ofPosition buffer position).advance .varint).2 =
        ((Cursor.ofPosition buffer position).advance .tag).2 := by
  obtain ⟨sameBuffer, read⟩ := Cursor.reader_of_advance_ok (Prod.ext tagRead rfl)
  obtain ⟨key, keyRead, _⟩ := readTag_eq_ok_iff_key.mp (reader_tag_eq_ok_iff.mp read)
  have accepted := Cursor.advance_varint_of_ok keyRead
  refine ⟨key, ⟨?_, tagRead⟩, ?_⟩
  · rw [accepted]
  · rw [accepted, ← sameBuffer]

/-- The integer at a position agrees with the tag in the low thirty-five bits. -/
theorem IsTagAt.key_mod
    (isTagAt : IsTagAt buffer position key tag) :
    key.toNat % 2 ^ 35 = tag.key := by
  have keyRead := (Cursor.reader_of_advance_ok (Prod.ext isTagAt.key_read rfl)).2
  have tagRead := (Cursor.reader_of_advance_ok (Prod.ext isTagAt.tag_read rfl)).2
  exact key_mod_of_read (reader_varint_eq_ok_iff.mp keyRead) (reader_tag_eq_ok_iff.mp tagRead)

/-- The integer is the one that the tag stands for if it has no more bits than that. -/
theorem IsTagAt.key_eq_iff
    (isTagAt : IsTagAt buffer position key tag) :
    key.toNat = tag.key ↔ key.toNat < 2 ^ 35 := by
  have sameBits := isTagAt.key_mod
  have := tag.key_lt
  omega

/-- Two integers are read as one tag exactly if their low thirty-five bits are the same. -/
theorem IsTagAt.tag_eq_iff
    (isTagAt : IsTagAt buffer position key tag)
    (isOtherTagAt : IsTagAt other otherPosition otherKey otherTag) :
    tag = otherTag ↔ key.toNat % 2 ^ 35 = otherKey.toNat % 2 ^ 35 := by
  rw [isTagAt.key_mod, isOtherTagAt.key_mod, Tag.key_injective.eq_iff]

/-- An integer that agrees with a tag is read as this tag wherever it is written. -/
theorem isTagAt_writeVarint
    (sameBits : key.toNat % 2 ^ 35 = tag.key)
    (before suffix : Bytes) :
    IsTagAt (before ++ (writeVarint key ++ suffix)) before.length key tag := by
  have keyRead := readVarint_writeVarint key suffix
  have tagRead := readTag_eq_ok_iff_key.mpr ⟨key, keyRead, sameBits⟩
  constructor
  · rw [Cursor.ofPosition_append, Cursor.advance_varint_of_ok keyRead]
  · rw [Cursor.ofPosition_append, Cursor.advance, reader_tag_eq_ok_iff.mpr tagRead]

end Position

end Wire

end GrpcDiscovery
