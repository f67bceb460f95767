import GrpcDiscovery.Proofs.Wire.Write

namespace GrpcDiscovery.Wire

/-!
# The grammar of records

What integers, tags and payloads look like on the wire, said without the readers.
An integer may be written longer than it has to be, and of the seventy bits that
ten bytes hold only the low sixty-four count.

A reader succeeds exactly where the bytes ahead begin with a phrase of its
grammar. It takes this phrase, whatever follows, and leaves what follows.
-/

/-- The number that the low seven bits of bytes make up, the lowest first. -/
def varintValue : Bytes → Nat
  | [] =>
      0
  | byte :: rest =>
      byte.toNat % 128 + 128 * varintValue rest

/--
A variable-length integer of at most `width` bytes.

The top bit is clear in its last byte and set in all others.
-/
inductive IsVarint : (width : Nat) → Bytes → Prop where
  | last
      {width : Nat}
      {byte : UInt8} :
      byte < 0x80 →
      IsVarint (width + 1) [byte]
  | more
      {width : Nat}
      {byte : UInt8}
      {rest : Bytes} :
      ¬ byte < 0x80 →
      IsVarint width rest →
      IsVarint (width + 1) (byte :: rest)

/-- The opening of a record, of whose field number thirty-two bits are kept. -/
structure IsTag
    (tag : Tag)
    (bytes : Bytes) :
    Prop where
  isVarint : IsVarint maxVarintBytes bytes
  wireType : varintValue bytes % 8 = tag.wireType.code
  number : UInt32.ofNat (varintValue bytes / 8) = tag.number

/-- The payload of a record that is no group. -/
inductive IsScalar : WireType → Payload → Bytes → Prop where
  | varint {bytes : Bytes} :
      IsVarint maxVarintBytes bytes →
      IsScalar .varint (.varint (UInt64.ofNat (varintValue bytes))) bytes
  | fixed64 {bytes : Bytes} :
      bytes.length = 8 →
      IsScalar .fixed64 (.fixed64 (UInt64.ofNat (littleEndian bytes))) bytes
  | lengthDelimited {length content : Bytes} :
      IsVarint maxVarintBytes length →
      varintValue length % 2 ^ 64 = content.length →
      IsScalar .lengthDelimited (.lengthDelimited content) (length ++ content)
  | fixed32 {bytes : Bytes} :
      bytes.length = 4 →
      IsScalar .fixed32 (.fixed32 (UInt32.ofNat (littleEndian bytes))) bytes

/-! ## Readers one after the other -/

section Sequence

variable {α β : Type} {reader : Reader α} {next : α → Reader β} {bytes rest : Bytes}

/-- Two readers succeed when the second does on what the first leaves. -/
theorem bind_eq_ok_iff {value : β} :
    (reader >>= next) bytes = .ok value rest ↔
      ∃ first middle, reader bytes = .ok first middle ∧ next first middle = .ok value rest := by
  change EStateM.bind reader next bytes = .ok value rest ↔ _
  rw [EStateM.bind]
  cases reader bytes with
  | ok first middle =>
      simp
  | error cause middle =>
      simp

/-- A value that is read and then converted. -/
theorem bind_pure_eq_ok_iff
    {convert : α → β}
    {value : β} :
    (reader >>= fun first => pure (convert first)) bytes = .ok value rest ↔
      ∃ first, reader bytes = .ok first rest ∧ convert first = value := by
  rw [bind_eq_ok_iff]
  constructor
  · rintro ⟨first, middle, firstRead, result⟩
    cases result
    exact ⟨first, firstRead, rfl⟩
  · rintro ⟨first, firstRead, rfl⟩
    exact ⟨first, rest, firstRead, rfl⟩

end Sequence

/-! ## Integers and tags -/

/-- A byte without its top bit is the number that it stands for. -/
theorem toUInt64_eq_varintValue
    {byte : UInt8}
    (ends : byte < 0x80) :
    byte.toUInt64 = UInt64.ofNat (varintValue [byte]) := by
  have small : byte.toNat < 128 :=
    UInt8.lt_iff_toNat_lt.mp ends
  rw [← UInt64.toNat_inj, UInt8.toNat_toUInt64, UInt64.toNat_ofNat', varintValue, varintValue]
  omega

/-- The low bits of a byte and the number after it make up the number that starts with it. -/
theorem lowBits_add_varintValue
    (byte : UInt8)
    (rest : Bytes) :
    (byte &&& 0x7F).toUInt64 + 128 * UInt64.ofNat (varintValue rest) =
      UInt64.ofNat (varintValue (byte :: rest)) := by
  have low : (byte &&& 0x7F).toUInt64 = UInt64.ofNat (byte.toNat % 128) := by
    rw [← UInt64.toNat_inj, toNat_lowBits, UInt64.toNat_ofNat']
    omega
  rw [varintValue, low, UInt64.ofNat_add, UInt64.ofNat_mul]
  rfl

/-- Reading an integer takes exactly the bytes of one. -/
theorem readVarintWithin_eq_ok_iff
    {width : Nat}
    {bytes rest : Bytes}
    {value : UInt64} :
    readVarintWithin width bytes = .ok value rest ↔
      ∃ consumed, IsVarint width consumed ∧
        UInt64.ofNat (varintValue consumed) = value ∧ bytes = consumed ++ rest := by
  constructor
  · intro read
    fun_induction readVarintWithin width bytes generalizing value rest with
    | case1 =>
        cases read
    | case2 =>
        cases read
    | case3 width byte bytes ends =>
        cases read
        exact ⟨[byte], .last ends, (toUInt64_eq_varintValue ends).symm, rfl⟩
    | case4 width byte bytes continues high tail tailRead inductionHypothesis =>
        cases read
        obtain ⟨consumed, isVarint, rfl, rfl⟩ := inductionHypothesis tailRead
        exact ⟨byte :: consumed, .more continues isVarint,
          (lowBits_add_varintValue byte consumed).symm, rfl⟩
    | case5 =>
        cases read
  · rintro ⟨consumed, isVarint, rfl, rfl⟩
    induction isVarint with
    | last ends =>
        rw [List.singleton_append, readVarintWithin, if_pos ends,
          toUInt64_eq_varintValue ends]
    | more continues _ inductionHypothesis =>
        rw [List.cons_append, readVarintWithin, if_neg continues, inductionHypothesis]
        simp only [lowBits_add_varintValue]

theorem readVarint_eq_ok_iff
    {bytes rest : Bytes}
    {value : UInt64} :
    readVarint bytes = .ok value rest ↔
      ∃ consumed, IsVarint maxVarintBytes consumed ∧
        UInt64.ofNat (varintValue consumed) = value ∧ bytes = consumed ++ rest :=
  readVarintWithin_eq_ok_iff

theorem eq_malformedVarint_of_readVarintWithin
    {width : Nat}
    {bytes rest : Bytes}
    {cause : WireError}
    (failed : readVarintWithin width bytes = .error cause rest) :
    cause = .malformedVarint := by
  fun_induction readVarintWithin width bytes with
  | case1 =>
      cases failed
      rfl
  | case2 =>
      cases failed
      rfl
  | case3 =>
      cases failed
  | case4 =>
      cases failed
  | case5 _ _ _ _ _ _ tailFailed inductionHypothesis =>
      cases failed
      exact inductionHypothesis tailFailed

/-- Only the code of a wire type is read as this type. -/
theorem ofCode?_eq_some_iff
    {code : Nat}
    {wireType : WireType} :
    WireType.ofCode? code = some wireType ↔ code = wireType.code := by
  constructor
  · intro known
    unfold WireType.ofCode? at known
    split at known <;> cases known <;> rfl
  · rintro rfl
    exact ofCode?_code wireType

/-- The wire type of an integer stands in its low three bits. -/
theorem toNat_and_seven (value : Nat) :
    (UInt64.ofNat value &&& 7).toNat = value % 8 := by
  rw [UInt64.toNat_and, UInt64.toNat_ofNat']
  exact (Nat.and_two_pow_sub_one_eq_mod _ 3).trans (by omega)

/-- The field number of an integer stands above them, as far as thirty-two bits hold it. -/
theorem toUInt32_shiftRight_three (value : Nat) :
    (UInt64.ofNat value >>> 3).toUInt32 = UInt32.ofNat (value / 8) := by
  have shifted : (UInt64.ofNat value >>> 3).toNat = value % 2 ^ 64 / 8 := by
    rw [UInt64.toNat_shiftRight, UInt64.toNat_ofNat']
    exact Nat.shiftRight_eq_div_pow _ 3
  rw [← UInt32.toNat_inj, UInt64.toNat_toUInt32, shifted, UInt32.toNat_ofNat']
  omega

/-- Reading a tag takes exactly the bytes of one. -/
theorem readTag_eq_ok_iff
    {bytes rest : Bytes}
    {tag : Tag} :
    readTag bytes = .ok tag rest ↔
      ∃ opening, IsTag tag opening ∧ bytes = opening ++ rest := by
  have keyed :
      readTag bytes = .ok tag rest ↔
        ∃ key, readVarint bytes = .ok key rest ∧
          (key &&& 7).toNat = tag.wireType.code ∧ (key >>> 3).toUInt32 = tag.number := by
    obtain ⟨number, wireType⟩ := tag
    rw [readTag, bind_eq_ok_iff]
    simp only [← ofCode?_eq_some_iff]
    constructor
    · rintro ⟨key, middle, keyRead, known⟩
      cases code : WireType.ofCode? (key &&& 7).toNat with
      | none =>
          rw [code] at known
          cases known
      | some found =>
          rw [code] at known
          cases known
          exact ⟨key, keyRead, code, rfl⟩
    · rintro ⟨key, keyRead, known, rfl⟩
      refine ⟨key, rest, keyRead, ?_⟩
      rw [known]
      rfl
  rw [keyed]
  constructor
  · rintro ⟨key, keyRead, code, number⟩
    obtain ⟨opening, isVarint, rfl, rfl⟩ := readVarint_eq_ok_iff.mp keyRead
    rw [toNat_and_seven] at code
    rw [toUInt32_shiftRight_three] at number
    exact ⟨opening, ⟨isVarint, code, number⟩, rfl⟩
  · rintro ⟨opening, isTag, rfl⟩
    refine ⟨_, readVarint_eq_ok_iff.mpr ⟨opening, isTag.isVarint, rfl, rfl⟩, ?_, ?_⟩
    · rw [toNat_and_seven, isTag.wireType]
    · rw [toUInt32_shiftRight_three, isTag.number]

theorem IsTag.read
    {tag : Tag}
    {opening : Bytes}
    (isTag : IsTag tag opening)
    (rest : Bytes) :
    readTag (opening ++ rest) = .ok tag rest :=
  readTag_eq_ok_iff.mpr ⟨opening, isTag, rfl⟩

theorem IsTag.length_pos
    {tag : Tag}
    {opening : Bytes}
    (isTag : IsTag tag opening) :
    0 < opening.length := by
  cases isTag.isVarint <;> exact Nat.succ_pos _

/-! ## Payloads -/

theorem readBytes_eq_ok_iff
    {count : Nat}
    {bytes content rest : Bytes} :
    readBytes count bytes = .ok content rest ↔
      content.length = count ∧ bytes = content ++ rest := by
  rw [readBytes]
  constructor
  · intro read
    split at read
    · rename_i enough
      cases read
      exact ⟨List.length_take_of_le enough, (List.take_append_drop count bytes).symm⟩
    · cases read
  · rintro ⟨rfl, rfl⟩
    rw [if_pos (by simp), List.take_left, List.drop_left]

theorem readFixed64_eq_ok_iff
    {bytes rest : Bytes}
    {value : UInt64} :
    readFixed64 bytes = .ok value rest ↔
      ∃ content : Bytes, content.length = 8 ∧
        UInt64.ofNat (littleEndian content) = value ∧ bytes = content ++ rest := by
  refine Iff.trans bind_pure_eq_ok_iff (exists_congr fun content => ?_)
  rw [readBytes_eq_ok_iff, and_assoc, @and_comm (bytes = content ++ rest)]

theorem readFixed32_eq_ok_iff
    {bytes rest : Bytes}
    {value : UInt32} :
    readFixed32 bytes = .ok value rest ↔
      ∃ content : Bytes, content.length = 4 ∧
        UInt32.ofNat (littleEndian content) = value ∧ bytes = content ++ rest := by
  refine Iff.trans bind_pure_eq_ok_iff (exists_congr fun content => ?_)
  rw [readBytes_eq_ok_iff, and_assoc, @and_comm (bytes = content ++ rest)]

theorem readLengthDelimited_eq_ok_iff
    {bytes content rest : Bytes} :
    readLengthDelimited bytes = .ok content rest ↔
      ∃ length, IsVarint maxVarintBytes length ∧
        varintValue length % 2 ^ 64 = content.length ∧ bytes = length ++ content ++ rest := by
  refine Iff.trans bind_eq_ok_iff ?_
  constructor
  · rintro ⟨value, middle, lengthRead, contentRead⟩
    obtain ⟨length, isVarint, rfl, rfl⟩ := readVarint_eq_ok_iff.mp lengthRead
    obtain ⟨fits, rfl⟩ := readBytes_eq_ok_iff.mp contentRead
    rw [UInt64.toNat_ofNat'] at fits
    exact ⟨length, isVarint, fits.symm, (List.append_assoc _ _ _).symm⟩
  · rintro ⟨length, isVarint, fits, rfl⟩
    refine ⟨_, content ++ rest,
      readVarint_eq_ok_iff.mpr ⟨length, isVarint, rfl, List.append_assoc _ _ _⟩,
      readBytes_eq_ok_iff.mpr ⟨?_, rfl⟩⟩
    rw [UInt64.toNat_ofNat', fits]

/-- Reading a payload that is no group takes exactly the bytes of one. -/
theorem readScalarPayload_eq_ok_iff
    {wireType : WireType}
    {bytes rest : Bytes}
    {payload : Payload} :
    readScalarPayload wireType bytes = .ok payload rest ↔
      ∃ consumed, IsScalar wireType payload consumed ∧ bytes = consumed ++ rest := by
  cases wireType with
  | varint =>
      rw [readScalarPayload, bind_pure_eq_ok_iff]
      simp only [readVarint_eq_ok_iff]
      constructor
      · rintro ⟨_, ⟨consumed, isVarint, rfl, rfl⟩, rfl⟩
        exact ⟨consumed, .varint isVarint, rfl⟩
      · rintro ⟨consumed, isScalar, rfl⟩
        cases isScalar with
        | varint isVarint =>
            exact ⟨_, ⟨consumed, isVarint, rfl, rfl⟩, rfl⟩
  | fixed64 =>
      rw [readScalarPayload, bind_pure_eq_ok_iff]
      simp only [readFixed64_eq_ok_iff]
      constructor
      · rintro ⟨_, ⟨consumed, length, rfl, rfl⟩, rfl⟩
        exact ⟨consumed, .fixed64 length, rfl⟩
      · rintro ⟨consumed, isScalar, rfl⟩
        cases isScalar with
        | fixed64 length =>
            exact ⟨_, ⟨consumed, length, rfl, rfl⟩, rfl⟩
  | lengthDelimited =>
      rw [readScalarPayload, bind_pure_eq_ok_iff]
      simp only [readLengthDelimited_eq_ok_iff]
      constructor
      · rintro ⟨content, ⟨length, isVarint, fits, rfl⟩, rfl⟩
        exact ⟨length ++ content, .lengthDelimited isVarint fits, rfl⟩
      · rintro ⟨consumed, isScalar, rfl⟩
        cases isScalar with
        | lengthDelimited isVarint fits =>
            exact ⟨_, ⟨_, isVarint, fits, rfl⟩, rfl⟩
  | fixed32 =>
      rw [readScalarPayload, bind_pure_eq_ok_iff]
      simp only [readFixed32_eq_ok_iff]
      constructor
      · rintro ⟨_, ⟨consumed, length, rfl, rfl⟩, rfl⟩
        exact ⟨consumed, .fixed32 length, rfl⟩
      · rintro ⟨consumed, isScalar, rfl⟩
        cases isScalar with
        | fixed32 length =>
            exact ⟨_, ⟨consumed, length, rfl, rfl⟩, rfl⟩
  | startGroup =>
      constructor
      · intro read
        cases read
      · rintro ⟨_, isScalar, _⟩
        cases isScalar
  | endGroup =>
      constructor
      · intro read
        cases read
      · rintro ⟨_, isScalar, _⟩
        cases isScalar

theorem IsScalar.read
    {wireType : WireType}
    {payload : Payload}
    {content : Bytes}
    (isScalar : IsScalar wireType payload content)
    (rest : Bytes) :
    readScalarPayload wireType (content ++ rest) = .ok payload rest :=
  readScalarPayload_eq_ok_iff.mpr ⟨content, isScalar, rfl⟩

end GrpcDiscovery.Wire
