import GrpcDiscovery.Proofs.Wire.Skipping
import Mathlib.Algebra.BigOperators.Ring.Finset

namespace GrpcDiscovery.Wire

/-!
# Variable-length integers

What reading an integer at a position of a buffer comes to. The integer ends with the
first byte whose top bit is clear. If this is one of the ten bytes ahead, the groups of
seven bits up to it are added up, and the sum keeps its low sixty-four bits. If it is
not, the read fails, and the bytes that it looked at are consumed all the same.

A number can be written in up to ten bytes, with its shortest encoding or with groups
of nought behind it. Whatever follows, it is read back, and the cursor stops right
behind the encoding.
-/

/-! ## Where an integer ends -/

/-- The top bit of a byte is clear when the byte is below 128. -/
theorem topBit_eq_zero_iff (byte : UInt8) :
    byte &&& 0x80 = 0 ↔ byte < 0x80 := by
  have checked : ∀ value < 256, value &&& 128 = 0 ↔ value < 128 := by
    decide +kernel
  rw [← UInt8.toNat_inj, UInt8.toNat_and, UInt8.lt_iff_toNat_lt]
  exact checked byte.toNat byte.toNat_lt

/-- Whether a place of a buffer holds a byte whose top bit is clear. -/
def EndsAt (buffer : Bytes) (place : Nat) : Prop :=
  ∃ byte, buffer[place]? = some byte ∧ byte &&& 0x80 = 0

instance (buffer : Bytes) (place : Nat) : Decidable (EndsAt buffer place) :=
  decidable_of_iff (buffer[place]?.any fun byte => byte &&& 0x80 == 0)
    (by simp [EndsAt, Option.any_eq_true])

theorem not_endsAt_nil (place : Nat) :
    ¬ EndsAt [] place := by
  rintro ⟨byte, found, _⟩
  cases found

theorem endsAt_cons_zero
    {byte : UInt8}
    {rest : Bytes} :
    EndsAt (byte :: rest) 0 ↔ byte < 0x80 := by
  simp [EndsAt, topBit_eq_zero_iff]

theorem endsAt_cons_succ
    {byte : UInt8}
    {rest : Bytes}
    {place : Nat} :
    EndsAt (byte :: rest) (place + 1) ↔ EndsAt rest place := by
  simp [EndsAt]

/-- A place of what is ahead is one of the buffer, as far behind the position. -/
theorem endsAt_drop
    {buffer : Bytes}
    {position place : Nat} :
    EndsAt (buffer.drop position) place ↔ EndsAt buffer (position + place) := by
  rw [EndsAt, EndsAt, List.getElem?_drop]

theorem EndsAt.lt_length
    {buffer : Bytes}
    {place : Nat}
    (ends : EndsAt buffer place) :
    place < buffer.length := by
  obtain ⟨byte, found, _⟩ := ends
  exact (List.getElem?_eq_some_iff.mp found).1

/-- The bytes up to the first one that ends an integer are an integer. -/
theorem isVarint_take
    {width place : Nat}
    {bytes : Bytes}
    (within : place < width)
    (ends : EndsAt bytes place)
    (first : ∀ earlier < place, ¬ EndsAt bytes earlier) :
    IsVarint width (bytes.take (place + 1)) := by
  induction place generalizing width bytes with
  | zero =>
      obtain ⟨width, rfl⟩ := Nat.exists_eq_succ_of_ne_zero (Nat.ne_of_gt within)
      cases bytes with
      | nil =>
          exact absurd ends (not_endsAt_nil 0)
      | cons byte rest =>
          exact .last (endsAt_cons_zero.mp ends)
  | succ place inductionHypothesis =>
      obtain ⟨width, rfl⟩ := Nat.exists_eq_succ_of_ne_zero (Nat.ne_zero_of_lt within)
      cases bytes with
      | nil =>
          exact absurd ends (not_endsAt_nil (place + 1))
      | cons byte rest =>
          have continues : ¬ byte < 0x80 := fun small =>
            first 0 (Nat.succ_pos place) (endsAt_cons_zero.mpr small)
          refine .more continues (inductionHypothesis (Nat.lt_of_succ_lt_succ within)
            (endsAt_cons_succ.mp ends) fun earlier before endsEarlier => ?_)
          exact first (earlier + 1) (Nat.succ_lt_succ before) (endsAt_cons_succ.mpr endsEarlier)

/-- Where no integer ends in time, as many bytes are consumed as one may have. -/
theorem readVarintWithin_of_endless
    {width : Nat}
    {bytes : Bytes}
    (endless : ∀ place < width, ¬ EndsAt bytes place) :
    readVarintWithin width bytes = .error .malformedVarint (bytes.drop width) := by
  induction width generalizing bytes with
  | zero =>
      rw [readVarintWithin, List.drop_zero]
  | succ width inductionHypothesis =>
      cases bytes with
      | nil =>
          rw [readVarintWithin, List.drop_nil]
      | cons byte rest =>
          have continues : ¬ byte < 0x80 := fun small =>
            endless 0 (Nat.succ_pos width) (endsAt_cons_zero.mpr small)
          have restEndless : ∀ place < width, ¬ EndsAt rest place :=
            fun place within ends =>
              endless (place + 1) (Nat.succ_lt_succ within) (endsAt_cons_succ.mpr ends)
          rw [readVarintWithin, if_neg continues, inductionHypothesis restEndless,
            List.drop_succ_cons]

/-! ## The sum of the groups -/

/-- The number of bytes as a sum: seven bits of each, in the order of their places. -/
theorem varintValue_eq_sum (bytes : Bytes) :
    varintValue bytes =
      ∑ place ∈ Finset.range bytes.length,
        (bytes.getD place 0).toNat % 128 * 2 ^ (7 * place) := by
  induction bytes with
  | nil =>
      rfl
  | cons byte rest inductionHypothesis =>
      have shifted (place : Nat) :
          ((byte :: rest).getD (place + 1) 0).toNat % 128 * 2 ^ (7 * (place + 1)) =
            128 * ((rest.getD place 0).toNat % 128 * 2 ^ (7 * place)) := by
        rw [List.getD_cons_succ, Nat.mul_add, Nat.pow_add, ← Nat.mul_assoc]
        exact Nat.mul_comm _ (2 ^ (7 * 1))
      rw [varintValue, inductionHypothesis, List.length_cons, Finset.sum_range_succ',
        Finset.mul_sum, Nat.add_comm]
      simp only [shifted]
      simp

/-- The number of the bytes behind a position, told from the buffer. -/
theorem varintValue_take_drop
    {buffer : Bytes}
    {position count : Nat}
    (within : position + count ≤ buffer.length) :
    varintValue ((buffer.drop position).take count) =
      ∑ place ∈ Finset.range count,
        (buffer.getD (position + place) 0).toNat % 128 * 2 ^ (7 * place) := by
  have length : ((buffer.drop position).take count).length = count := by
    rw [List.length_take, List.length_drop]
    omega
  rw [varintValue_eq_sum, length]
  refine Finset.sum_congr rfl fun place member => ?_
  have inside := Finset.mem_range.mp member
  have same :
      ((buffer.drop position).take count).getD place 0 = buffer.getD (position + place) 0 := by
    simp only [List.getD_eq_getElem?_getD, List.getElem?_take_of_lt inside, List.getElem?_drop]
  rw [same]

/-! ## Reading at a position -/

/-- A position of a buffer is where the cursor there stands. -/
theorem Cursor.position_ofPosition
    {buffer : Bytes}
    {position : Nat}
    (within : position ≤ buffer.length) :
    (Cursor.ofPosition buffer position).position = position := by
  change buffer.length - (buffer.drop position).length = position
  rw [List.length_drop]
  omega

/-- No cursor passes the end of its buffer. -/
theorem Cursor.ofPosition_add_min
    (buffer : Bytes)
    (position count : Nat) :
    Cursor.ofPosition buffer (position + min count (buffer.length - position)) =
      Cursor.ofPosition buffer (position + count) := by
  obtain enough | short := Nat.le_total count (buffer.length - position)
  · rw [Nat.min_eq_left enough]
  · have atEnd : buffer.drop (position + (buffer.length - position)) = [] :=
      List.drop_eq_nil_of_le (by omega)
    have behindEnd : buffer.drop (position + count) = [] :=
      List.drop_eq_nil_of_le (by omega)
    rw [Nat.min_eq_right short, Cursor.ofPosition, Cursor.ofPosition, atEnd, behindEnd]

/-- What is ahead of a cursor behind a prefix. -/
theorem Cursor.ofPosition_append
    (before ahead : Bytes) :
    Cursor.ofPosition (before ++ ahead) before.length = ⟨before ++ ahead, ahead⟩ := by
  rw [Cursor.ofPosition, List.drop_left]

section Advance

variable {cursor : Cursor} {rest : Bytes} {value : UInt64} {cause : WireError}

theorem Cursor.advance_varint_of_ok
    (read : readVarint cursor.rest = .ok value rest) :
    cursor.advance .varint = (.ok (.varint value), { cursor with rest := rest }) := by
  simp only [Cursor.advance, Step.reader, bind, EStateM.bind, read]
  rfl

theorem Cursor.advance_varint_of_error
    (failed : readVarint cursor.rest = .error cause rest) :
    cursor.advance .varint = (.error cause, { cursor with rest := rest }) := by
  simp only [Cursor.advance, Step.reader, bind, EStateM.bind, failed]

theorem Cursor.advance_int32_of_ok
    (read : readVarint cursor.rest = .ok value rest) :
    cursor.advance .int32 = (.ok (.int32 (int32Of value)), { cursor with rest := rest }) := by
  simp only [Cursor.advance, Step.reader, readInt32, bind, EStateM.bind, read]
  rfl

end Advance

section Position

variable {buffer : Bytes} {position : Nat}

/-- An integer that ends at one of the ten bytes ahead is their sum. -/
theorem advance_varint_of_endsAt
    {place : Nat}
    (within : place < maxVarintBytes)
    (ends : EndsAt buffer (position + place))
    (first : ∀ earlier < place, ¬ EndsAt buffer (position + earlier)) :
    (Cursor.ofPosition buffer position).advance .varint =
      (.ok (.varint (UInt64.ofNat (∑ index ∈ Finset.range (place + 1),
          (buffer.getD (position + index) 0).toNat % 128 * 2 ^ (7 * index)))),
        Cursor.ofPosition buffer (position + (place + 1))) := by
  have isVarint : IsVarint maxVarintBytes ((buffer.drop position).take (place + 1)) :=
    isVarint_take within (endsAt_drop.mpr ends) fun earlier before endsEarlier =>
      first earlier before (endsAt_drop.mp endsEarlier)
  have read :
      readVarint (Cursor.ofPosition buffer position).rest =
        .ok (UInt64.ofNat (varintValue ((buffer.drop position).take (place + 1))))
          (buffer.drop (position + (place + 1))) := by
    refine readVarint_eq_ok_iff.mpr ⟨_, isVarint, rfl, ?_⟩
    rw [← List.drop_drop]
    exact (List.take_append_drop (place + 1) (buffer.drop position)).symm
  rw [Cursor.advance_varint_of_ok read, varintValue_take_drop ends.lt_length]
  rfl

/-- Where no integer ends in time, the cursor passes the bytes that were looked at. -/
theorem advance_varint_of_endless
    (endless : ∀ place < maxVarintBytes, ¬ EndsAt buffer (position + place)) :
    (Cursor.ofPosition buffer position).advance .varint =
      (.error .malformedVarint, Cursor.ofPosition buffer (position + maxVarintBytes)) := by
  have failed :
      readVarint (Cursor.ofPosition buffer position).rest =
        .error .malformedVarint ((buffer.drop position).drop maxVarintBytes) :=
    readVarintWithin_of_endless fun place within ends =>
      endless place within (endsAt_drop.mp ends)
  rw [Cursor.advance_varint_of_error failed, List.drop_drop]
  rfl

end Position

/-! ## Encodings of a number -/

/-- Whether bytes are an encoding of a number, and no other one is shorter. -/
structure IsShortestVarint
    (value : UInt64)
    (bytes : Bytes) :
    Prop where
  isVarint : IsVarint maxVarintBytes bytes
  varintValue_eq : varintValue bytes = value.toNat
  length_le :
    ∀ other, IsVarint maxVarintBytes other → varintValue other = value.toNat →
      bytes.length ≤ other.length

/-- Write a variable-length integer with `more` bytes before its last one. -/
def writeLongVarint : (more : Nat) → UInt64 → Bytes
  | 0, value =>
      [value.toUInt8]
  | more + 1, value =>
      (value % 128 + 128).toUInt8 :: writeLongVarint more (value / 128)

section Encoding

variable {width more : Nat} {value : UInt64}

/-- An encoding of a number is read back, and what follows it is left. -/
theorem readVarint_of_isVarint
    {bytes : Bytes}
    (isVarint : IsVarint maxVarintBytes bytes)
    (sameValue : varintValue bytes = value.toNat)
    (rest : Bytes) :
    readVarint (bytes ++ rest) = .ok value rest :=
  readVarint_eq_ok_iff.mpr ⟨bytes, isVarint, by rw [sameValue, UInt64.ofNat_toNat], rfl⟩

/-- A number below 128 is the value of one byte. -/
private theorem toNat_toUInt8_of_small (small : value.toNat < 128) :
    value.toUInt8.toNat = value.toNat := by
  rw [UInt64.toNat_toUInt8]
  exact Nat.mod_eq_of_lt (Nat.lt_trans small (by decide))

private theorem isVarint_lastByte (small : value.toNat < 128) :
    IsVarint (width + 1) [value.toUInt8] ∧ varintValue [value.toUInt8] = value.toNat := by
  have byteValue := toNat_toUInt8_of_small small
  refine ⟨.last (UInt8.lt_iff_toNat_lt.mpr (byteValue ▸ small)), ?_⟩
  rw [varintValue, varintValue, byteValue]
  omega

/-- A group of seven bits before the encoding of what is left of a number. -/
private theorem isVarint_cons
    {rest : Bytes}
    (encoded : IsVarint width rest ∧ varintValue rest = (value / 128).toNat) :
    IsVarint (width + 1) ((value % 128 + 128).toUInt8 :: rest) ∧
      varintValue ((value % 128 + 128).toUInt8 :: rest) = value.toNat := by
  have continues : ¬ (value % 128 + 128).toUInt8 < 0x80 := by
    rw [UInt8.lt_iff_toNat_lt, toNat_continuation]
    exact Nat.not_lt.mpr (Nat.le_add_left 128 _)
  refine ⟨.more continues encoded.1, ?_⟩
  have high : (value / 128).toNat = value.toNat / 128 := UInt64.toNat_div value 128
  rw [varintValue, toNat_continuation, encoded.2, high]
  omega

private theorem toNat_div_lt
    (fits : value.toNat < 128 ^ (width + 1)) :
    (value / 128).toNat < 128 ^ width := by
  rw [UInt64.toNat_div]
  exact Nat.div_lt_of_lt_mul (Nat.lt_of_lt_of_eq fits (Nat.pow_succ' (n := width)))

/-- What is written of a number that has room encodes it. -/
theorem isVarint_writeVarintWithin
    (fits : value.toNat < 128 ^ (width + 1)) :
    IsVarint (width + 1) (writeVarintWithin (width + 1) value) ∧
      varintValue (writeVarintWithin (width + 1) value) = value.toNat := by
  induction width generalizing value with
  | zero =>
      rw [writeVarintWithin, if_pos (UInt64.lt_iff_toNat_lt.mpr fits)]
      exact isVarint_lastByte fits
  | succ width inductionHypothesis =>
      rw [writeVarintWithin]
      split
      · rename_i small
        exact isVarint_lastByte (UInt64.lt_iff_toNat_lt.mp small)
      · exact isVarint_cons (inductionHypothesis (toNat_div_lt fits))

/-- No encoding of a number is shorter than the one that is written. -/
theorem length_writeVarintWithin_le_of_isVarint
    {otherWidth : Nat}
    {other : Bytes}
    (isVarint : IsVarint otherWidth other)
    (sameValue : varintValue other = value.toNat) :
    (writeVarintWithin width value).length ≤ other.length := by
  induction isVarint generalizing width value with
  | @last _ byte ends =>
      have small : value < 128 := by
        rw [UInt64.lt_iff_toNat_lt, ← sameValue, varintValue, varintValue]
        exact Nat.mod_lt byte.toNat (by decide)
      cases width with
      | zero =>
          exact Nat.zero_le 1
      | succ width =>
          rw [writeVarintWithin, if_pos small]
          exact Nat.le_refl 1
  | @more _ byte rest _ _ inductionHypothesis =>
      have high : varintValue rest = (value / 128).toNat := by
        have quotient : (value / 128).toNat = value.toNat / 128 := UInt64.toNat_div value 128
        rw [varintValue] at sameValue
        omega
      cases width with
      | zero =>
          exact Nat.zero_le _
      | succ width =>
          rw [writeVarintWithin]
          split
          · exact Nat.succ_le_succ (Nat.zero_le _)
          · exact Nat.succ_le_succ (inductionHypothesis high)

theorem isShortestVarint_writeVarint (value : UInt64) :
    IsShortestVarint value (writeVarint value) := by
  have fits : value.toNat < 128 ^ maxVarintBytes :=
    Nat.lt_trans value.toNat_lt (by decide)
  obtain ⟨isVarint, sameValue⟩ := isVarint_writeVarintWithin fits
  exact ⟨isVarint, sameValue, fun _ => length_writeVarintWithin_le_of_isVarint⟩

/-- A number with room in as many bytes is encoded with them all. -/
theorem isVarint_writeLongVarint
    (fits : value.toNat < 128 ^ (more + 1)) :
    IsVarint (more + 1) (writeLongVarint more value) ∧
      varintValue (writeLongVarint more value) = value.toNat := by
  induction more generalizing value with
  | zero =>
      exact isVarint_lastByte fits
  | succ more inductionHypothesis =>
      exact isVarint_cons (inductionHypothesis (toNat_div_lt fits))

theorem length_writeLongVarint
    (more : Nat)
    (value : UInt64) :
    (writeLongVarint more value).length = more + 1 := by
  induction more generalizing value with
  | zero =>
      rfl
  | succ more inductionHypothesis =>
      rw [writeLongVarint, List.length_cons, inductionHypothesis]

/-- A number that needs all the bytes is written with them by itself. -/
theorem writeVarintWithin_eq_writeLongVarint
    (fits : value.toNat < 128 ^ (more + 1))
    (needed : 128 ^ more ≤ value.toNat) :
    writeVarintWithin (more + 1) value = writeLongVarint more value := by
  induction more generalizing value with
  | zero =>
      rw [writeVarintWithin, if_pos (UInt64.lt_iff_toNat_lt.mpr fits), writeLongVarint]
  | succ more inductionHypothesis =>
      have large : ¬ value < 128 := by
        rw [UInt64.lt_iff_toNat_lt, Nat.not_lt]
        exact Nat.le_trans (Nat.le_self_pow (Nat.succ_ne_zero more) 128) needed
      have highNeeded : 128 ^ more ≤ (value / 128).toNat := by
        rw [UInt64.toNat_div]
        exact (Nat.le_div_iff_mul_le (by decide)).mpr (Nat.pow_succ .. ▸ needed)
      rw [writeVarintWithin, if_neg large, writeLongVarint,
        inductionHypothesis (toNat_div_lt fits) highNeeded]

end Encoding

/-- The sign of a negative number fills the high bits when it is extended. -/
theorem le_toNat_ofInt32
    {number : Int32}
    (negative : number < 0) :
    2 ^ 63 ≤ (ofInt32 number).toNat := by
  have extended : number.toInt64.toBitVec.toInt < 0 := by
    have sameNumber := Int32.toInt_toInt64 number
    have := Int32.lt_iff_toInt_lt.mp negative
    exact sameNumber.trans_lt this
  have doubled : 2 ^ 64 ≤ 2 * (ofInt32 number).toNat :=
    BitVec.toInt_neg_iff.mp extended
  omega

/-- A sign-extended number is read back from any of its encodings. -/
theorem Cursor.advance_int32_of_isVarint
    {encoding : Bytes}
    {number : Int32}
    (isVarint : IsVarint maxVarintBytes encoding)
    (sameValue : varintValue encoding = (ofInt32 number).toNat)
    (before suffix : Bytes) :
    (Cursor.ofPosition (before ++ (encoding ++ suffix)) before.length).advance .int32 =
      (.ok (.int32 number), ⟨before ++ (encoding ++ suffix), suffix⟩) := by
  rw [Cursor.ofPosition_append,
    Cursor.advance_int32_of_ok (readVarint_of_isVarint isVarint sameValue suffix),
    int32Of_ofInt32]

theorem Cursor.advance_varint_of_isVarint
    {encoding : Bytes}
    {value : UInt64}
    (isVarint : IsVarint maxVarintBytes encoding)
    (sameValue : varintValue encoding = value.toNat)
    (before suffix : Bytes) :
    (Cursor.ofPosition (before ++ (encoding ++ suffix)) before.length).advance .varint =
      (.ok (.varint value), ⟨before ++ (encoding ++ suffix), suffix⟩) := by
  rw [Cursor.ofPosition_append,
    Cursor.advance_varint_of_ok (readVarint_of_isVarint isVarint sameValue suffix)]

/-! ## Reading integers -/

/-- Of the places that end an integer there is a first one. -/
theorem exists_first_endsAt
    {buffer : Bytes}
    {position place : Nat}
    (ends : EndsAt buffer (position + place)) :
    ∃ first ≤ place, EndsAt buffer (position + first) ∧
      ∀ earlier < first, ¬ EndsAt buffer (position + earlier) := by
  classical
  have some : ∃ place, EndsAt buffer (position + place) := ⟨place, ends⟩
  exact ⟨Nat.find some, Nat.find_min' some ends, Nat.find_spec some,
    fun _ before => Nat.find_min some before⟩

/--
Reading an integer succeeds exactly if one of the next ten bytes, or of those that are
left, has its top bit clear. It then takes the bytes up to the first such byte, and what
it reads is the sum of their groups of seven bits modulo `2 ^ 64`. Otherwise the integer
is malformed, and the bytes that were looked at are passed.

So the shortest encoding of any number is read back from before any suffix, and so is
the encoding of a sign-extended number in ten bytes.
-/
theorem readVarint_isExact :
    (∀ (buffer : Bytes) (position : Nat), position ≤ buffer.length →
      let available := min 10 (buffer.length - position)
      let outcome := (Cursor.ofPosition buffer position).advance .varint
      ((∃ value, outcome.1 = .ok (.varint value)) ↔
          ∃ place < available, EndsAt buffer (position + place)) ∧
        (∀ place < available, EndsAt buffer (position + place) →
          (∀ earlier < place, ¬ EndsAt buffer (position + earlier)) →
          (∃ value, outcome.1 = .ok (.varint value) ∧
              value.toNat =
                (∑ index ∈ Finset.range (place + 1),
                  (buffer.getD (position + index) 0).toNat % 128 * 2 ^ (7 * index)) %
                  2 ^ 64) ∧
            outcome.2 = .ofPosition buffer (position + (place + 1)) ∧
            outcome.2.position = position + (place + 1)) ∧
        ((∀ place < available, ¬ EndsAt buffer (position + place)) →
          outcome.1 = .error .malformedVarint ∧
            outcome.2 = .ofPosition buffer (position + available) ∧
            outcome.2.position = position + available)) ∧
    (∀ (before : Bytes) (value : UInt64) (suffix : Bytes),
      let encoding := writeVarint value
      IsShortestVarint value encoding ∧
        (Cursor.ofPosition (before ++ (encoding ++ suffix)) before.length).advance .varint =
          (.ok (.varint value), ⟨before ++ (encoding ++ suffix), suffix⟩)) ∧
    (∀ (before : Bytes) (number : Int32) (suffix : Bytes),
      let encoding := writeLongVarint 9 (ofInt32 number)
      encoding.length = 10 ∧ (number < 0 → writeVarint (ofInt32 number) = encoding) ∧
        (Cursor.ofPosition (before ++ (encoding ++ suffix)) before.length).advance .int32 =
          (.ok (.int32 number), ⟨before ++ (encoding ++ suffix), suffix⟩)) := by
  refine ⟨fun buffer position within => ?_, fun before value suffix => ?_,
    fun before number suffix => ?_⟩
  · intro available outcome
    have ahead {place : Nat} (near : place < 10) (ends : EndsAt buffer (position + place)) :
        place < available := by
      have := ends.lt_length
      omega
    have succeeds (place : Nat) (near : place < available)
        (ends : EndsAt buffer (position + place))
        (first : ∀ earlier < place, ¬ EndsAt buffer (position + earlier)) :=
      advance_varint_of_endsAt (Nat.lt_of_lt_of_le near (Nat.min_le_left _ _)) ends first
    have fails (endless : ∀ place < available, ¬ EndsAt buffer (position + place)) :=
      advance_varint_of_endless fun place near ends => endless place (ahead near ends) ends
    refine ⟨⟨?_, ?_⟩, ?_, ?_⟩
    · rintro ⟨value, accepted⟩
      by_contra none
      push Not at none
      have refused : outcome = _ := fails none
      rw [refused] at accepted
      cases accepted
    · rintro ⟨place, near, ends⟩
      obtain ⟨first, le, endsFirst, isFirst⟩ := exists_first_endsAt ends
      have accepted : outcome = _ :=
        succeeds first (Nat.lt_of_le_of_lt le near) endsFirst isFirst
      rw [accepted]
      exact ⟨_, rfl⟩
    · intro place near ends first
      have accepted : outcome = _ := succeeds place near ends first
      rw [accepted]
      exact ⟨⟨_, rfl, UInt64.toNat_ofNat'⟩, rfl, Cursor.position_ofPosition ends.lt_length⟩
    · intro endless
      have refused : outcome = _ := fails endless
      rw [refused, ← Cursor.ofPosition_add_min]
      exact ⟨rfl, rfl, Cursor.position_ofPosition (by omega)⟩
  · have shortest := isShortestVarint_writeVarint value
    exact ⟨shortest,
      Cursor.advance_varint_of_isVarint shortest.isVarint shortest.varintValue_eq before suffix⟩
  · have fits : (ofInt32 number).toNat < 128 ^ (9 + 1) :=
      Nat.lt_trans (ofInt32 number).toNat_lt (by decide)
    obtain ⟨isVarint, sameValue⟩ := isVarint_writeLongVarint fits
    refine ⟨length_writeLongVarint 9 _, fun negative => ?_,
      Cursor.advance_int32_of_isVarint isVarint sameValue before suffix⟩
    exact writeVarintWithin_eq_writeLongVarint fits (le_toNat_ofInt32 negative)

/-- An integer of ten bytes with bits to spare, between two other bytes. -/
def spareBits : Bytes :=
  0x2a :: (List.replicate 9 0xff ++ [0x7f, 5])

/-- The six bits above the sixty-fourth are dropped; the two bytes of `150` are cut short. -/
theorem readVarint_isExact_spareBits :
    (∃ value : UInt64, value.toNat = 2 ^ 64 - 1 ∧
      ((Cursor.ofPosition spareBits 1).advance .varint).1 = .ok (.varint value)) ∧
      ((Cursor.ofPosition spareBits 1).advance .varint).2.position = 11 ∧
      ((Cursor.ofPosition [0x08, 0x96] 1).advance .varint).1 = .error .malformedVarint ∧
      ((Cursor.ofPosition [0x08, 0x96] 1).advance .varint).2.position = 2 := by
  obtain ⟨_, atSpareBits, _⟩ := readVarint_isExact.1 spareBits 1 (by decide)
  obtain ⟨⟨value, accepted, sum⟩, _, passed⟩ :=
    atSpareBits 9 (by decide) (by decide) (by decide)
  obtain ⟨_, _, ofCut⟩ := readVarint_isExact.1 [0x08, 0x96] 1 (by decide)
  obtain ⟨refused, _, ended⟩ := ofCut (by decide)
  exact ⟨⟨value, sum.trans (by decide), accepted⟩, passed, refused, ended⟩

end GrpcDiscovery.Wire
