import GrpcDiscovery.Proofs.Text.Utf8
import GrpcDiscovery.Wire.Payload

namespace GrpcDiscovery.Wire

/-!
# Writing values

The writers that the readers undo. A variable-length integer is written in its
shortest form, a signed number is sign-extended to sixty-four bits first, and a
text goes by its UTF-8 form.

A reader that meets what a writer wrote gives the value back and stops right
behind it, whatever follows.
-/

/-- Write a variable-length integer of at most `width` bytes. -/
def writeVarintWithin : (width : Nat) → UInt64 → Bytes
  | 0, _ =>
      []
  | width + 1, value =>
      if value < 128 then
        [value.toUInt8]
      else
        (value % 128 + 128).toUInt8 :: writeVarintWithin width (value / 128)

/-- Write a variable-length integer. -/
def writeVarint (value : UInt64) : Bytes :=
  writeVarintWithin maxVarintBytes value

/-- Write a tag. -/
def writeTag (tag : Tag) : Bytes :=
  writeVarint (8 * tag.number.toUInt64 + UInt64.ofNat tag.wireType.code)

/-- Write a length and that many bytes. -/
def writeLengthDelimited (content : Bytes) : Bytes :=
  writeVarint (UInt64.ofNat content.length) ++ content

/-- A signed number as a variable-length integer. -/
def ofInt32 (value : Int32) : UInt64 :=
  value.toInt64.toUInt64

/-- A truth value as a variable-length integer. -/
def ofBool (value : Bool) : UInt64 :=
  if value then 1 else 0

/-! ## Variable-length integers -/

/-- The seven low bits of a byte. -/
theorem toNat_lowBits (byte : UInt8) :
    (byte &&& 0x7F).toUInt64.toNat = byte.toNat % 128 := by
  rw [UInt8.toNat_toUInt64, UInt8.toNat_and]
  exact Nat.and_two_pow_sub_one_eq_mod byte.toNat 7

/-- The value of a byte that announces another. -/
theorem toNat_continuation (value : UInt64) :
    (value % 128 + 128).toUInt8.toNat = value.toNat % 128 + 128 := by
  have group : (value % 128).toNat = value.toNat % 128 :=
    UInt64.toNat_mod value 128
  have sum : (value % 128 + 128).toNat = value.toNat % 128 + 128 := by
    rw [UInt64.toNat_add, group]
    exact Nat.mod_eq_of_lt (show _ + 128 < 2 ^ 64 by omega)
  rw [UInt64.toNat_toUInt8, sum]
  exact Nat.mod_eq_of_lt (by omega)

/-- A number below 128 is a byte that no other follows. -/
private theorem readVarintWithin_last
    {width : Nat}
    {value : UInt64}
    (small : value < 128)
    (rest : Bytes) :
    readVarintWithin (width + 1) (value.toUInt8 :: rest) = .ok value rest := by
  have bound : value.toNat < 128 :=
    UInt64.lt_iff_toNat_lt.mp small
  have byteValue : value.toUInt8.toNat = value.toNat := by
    rw [UInt64.toNat_toUInt8]
    exact Nat.mod_eq_of_lt (by omega)
  have last : value.toUInt8 < 0x80 := by
    rw [UInt8.lt_iff_toNat_lt, byteValue]
    exact bound
  have same : value.toUInt8.toUInt64 = value := by
    rw [← UInt64.toNat_inj, UInt8.toNat_toUInt64, byteValue]
  rw [readVarintWithin, if_pos last, same]

/-- A group of seven bits and what follows it make up the number. -/
private theorem lowBits_add_high (value : UInt64) :
    ((value % 128 + 128).toUInt8 &&& 0x7F).toUInt64 + 128 * (value / 128) =
      value := by
  have low :
      ((value % 128 + 128).toUInt8 &&& 0x7F).toUInt64.toNat =
        value.toNat % 128 := by
    rw [toNat_lowBits, toNat_continuation]
    omega
  have high : (128 * (value / 128)).toNat = 128 * (value.toNat / 128) := by
    rw [UInt64.toNat_mul, UInt64.toNat_div]
    exact Nat.mod_eq_of_lt (show 128 * (value.toNat / 128) < 2 ^ 64 by
      have := value.toNat_lt
      omega)
  rw [← UInt64.toNat_inj, UInt64.toNat_add, low, high, Nat.mod_add_div]
  exact Nat.mod_eq_of_lt value.toNat_lt

/-- A variable-length integer that has room is read back. -/
theorem readVarintWithin_writeVarintWithin
    {width : Nat}
    {value : UInt64}
    (fits : value.toNat < 128 ^ (width + 1))
    (rest : Bytes) :
    readVarintWithin (width + 1) (writeVarintWithin (width + 1) value ++ rest) =
      .ok value rest := by
  induction width generalizing value with
  | zero =>
      have small : value < 128 :=
        UInt64.lt_iff_toNat_lt.mpr fits
      rw [writeVarintWithin, if_pos small]
      exact readVarintWithin_last small rest
  | succ width inductionHypothesis =>
      by_cases small : value < 128
      · rw [writeVarintWithin, if_pos small]
        exact readVarintWithin_last small rest
      · have continued : ¬ (value % 128 + 128).toUInt8 < 0x80 := by
          rw [UInt8.lt_iff_toNat_lt, toNat_continuation]
          exact Nat.not_lt.mpr (Nat.le_add_left 128 _)
        have highFits : (value / 128).toNat < 128 ^ (width + 1) := by
          rw [UInt64.toNat_div]
          exact Nat.div_lt_of_lt_mul
            (Nat.lt_of_lt_of_eq fits (Nat.pow_succ' (n := width + 1)))
        rw [writeVarintWithin, if_neg small, List.cons_append, readVarintWithin,
          if_neg continued, inductionHypothesis highFits]
        simp only [lowBits_add_high]

/-- A variable-length integer is read back. -/
theorem readVarint_writeVarint
    (value : UInt64)
    (rest : Bytes) :
    readVarint (writeVarint value ++ rest) = .ok value rest :=
  readVarintWithin_writeVarintWithin
    (Nat.lt_trans value.toNat_lt (by decide))
    rest

/-- A variable-length integer takes no more bytes than it may. -/
theorem length_writeVarintWithin_le
    (width : Nat)
    (value : UInt64) :
    (writeVarintWithin width value).length ≤ width := by
  induction width generalizing value with
  | zero =>
      exact Nat.le_refl 0
  | succ width inductionHypothesis =>
      rw [writeVarintWithin]
      split
      · exact Nat.succ_le_succ (Nat.zero_le width)
      · exact Nat.succ_le_succ (inductionHypothesis (value / 128))

/-! ## Tags -/

/-- The number of a tag on the wire. -/
private theorem toNat_key (tag : Tag) :
    (8 * tag.number.toUInt64 + UInt64.ofNat tag.wireType.code).toNat =
      8 * tag.number.toNat + tag.wireType.code := by
  have number : (8 * tag.number.toUInt64).toNat = 8 * tag.number.toNat := by
    rw [UInt64.toNat_mul, UInt32.toNat_toUInt64]
    exact Nat.mod_eq_of_lt (show 8 * tag.number.toNat < 2 ^ 64 by
      have := tag.number.toNat_lt
      omega)
  have code : (UInt64.ofNat tag.wireType.code).toNat = tag.wireType.code := by
    cases tag.wireType <;> rfl
  have small : tag.wireType.code < 8 := by
    cases tag.wireType <;> decide
  rw [UInt64.toNat_add, number, code]
  exact Nat.mod_eq_of_lt (by
    have := tag.number.toNat_lt
    omega)

@[simp] theorem ofCode?_code (wireType : WireType) :
    WireType.ofCode? wireType.code = some wireType := by
  cases wireType <;> rfl

theorem readTag_writeTag
    (tag : Tag)
    (rest : Bytes) :
    readTag (writeTag tag ++ rest) = .ok tag rest := by
  have key := toNat_key tag
  have small : tag.wireType.code < 8 := by
    cases tag.wireType <;> decide
  unfold readTag writeTag
  generalize 8 * tag.number.toUInt64 + UInt64.ofNat tag.wireType.code = word at key
  have code : (word &&& 7).toNat = tag.wireType.code := by
    rw [UInt64.toNat_and, key]
    exact (Nat.and_two_pow_sub_one_eq_mod _ 3).trans (by omega)
  have number : (word >>> 3).toUInt32 = tag.number := by
    have shifted : word.toNat >>> 3 = tag.number.toNat := by
      rw [Nat.shiftRight_eq_div_pow, key]
      omega
    rw [← UInt32.toNat_inj, UInt64.toNat_toUInt32, UInt64.toNat_shiftRight]
    exact (congrArg (· % 2 ^ 32) shifted).trans (Nat.mod_eq_of_lt tag.number.toNat_lt)
  simp only [bind, EStateM.bind, readVarint_writeVarint, code, ofCode?_code, number]
  rfl

/-! ## Payloads -/

/-- Bytes that were written with their length are read back. -/
theorem readLengthDelimited_writeLengthDelimited
    {content : Bytes}
    (fits : content.length < 2 ^ 64)
    (rest : Bytes) :
    readLengthDelimited (writeLengthDelimited content ++ rest) =
      .ok content rest := by
  have length : (UInt64.ofNat content.length).toNat = content.length := by
    rw [UInt64.toNat_ofNat']
    exact Nat.mod_eq_of_lt fits
  simp only [readLengthDelimited, writeLengthDelimited, bind, EStateM.bind,
    List.append_assoc, readVarint_writeVarint, length, readBytes,
    List.length_append, Nat.le_add_right, ↓reduceIte, List.take_left',
    List.drop_left']

theorem textOf_encode (text : String) :
    textOf (Utf8.encode text) = .ok text := by
  rw [textOf, Utf8.decode_encode]

theorem int32Of_ofInt32 (value : Int32) :
    int32Of (ofInt32 value) = value := by
  have narrowed : int32Of (ofInt32 value) = value.toInt64.toInt32 := by
    apply Int32.toBitVec_inj.mp
    rw [Int64.toBitVec_toInt32, BitVec.signExtend_eq_setWidth_of_le _ (by decide)]
    rfl
  rw [narrowed, Int32.toInt32_toInt64]

theorem boolOf_ofBool (value : Bool) :
    boolOf (ofBool value) = value := by
  cases value <;> rfl

end GrpcDiscovery.Wire
