import GrpcDiscovery.Text.Utf8
import Mathlib.Tactic.IntervalCases

namespace GrpcDiscovery.Utf8

/-!
# Reading back what was written

The reader accepts the UTF-8 form of every text and finds that text in it. A
character is written in one to four bytes; the leading byte announces how many
follow and which bounds the next one has, and these bounds exclude exactly the
values that are no characters of that length.
-/

/-- A number below 256 is the value of its byte. -/
private theorem toNat_ofNat_byte
    {value : Nat}
    (fits : value < 256) :
    (UInt8.ofNat value).toNat = value := by
  rw [UInt8.toNat_ofNat']
  exact Nat.mod_eq_of_lt fits

/-- A continuation byte within its bounds adds its six low bits. -/
theorem scanContinuation_ofNat
    {seen value remaining bits : Nat}
    {low high : UInt8}
    {rest : Bytes}
    (above : low.toNat ≤ bits % 64 + 0x80)
    (below : bits % 64 + 0x80 ≤ high.toNat) :
    scanContinuation seen value low high (remaining + 1)
        (UInt8.ofNat (bits % 64 + 0x80) :: rest) =
      scanContinuation (seen + 1) (64 * value + bits % 64) 0x80 0xBF
        remaining rest := by
  have byteValue : (UInt8.ofNat (bits % 64 + 0x80)).toNat = bits % 64 + 0x80 :=
    toNat_ofNat_byte (by omega)
  have sixBits : (bits % 64 + 0x80) % 64 = bits % 64 := by
    omega
  simp only [scanContinuation, UInt8.le_iff_toNat_le, byteValue, sixBits, above,
    below, and_self, ↓reduceIte]

/-- A further continuation byte may have any six bits. -/
theorem scanContinuation_next
    {seen value remaining bits : Nat}
    {rest : Bytes} :
    scanContinuation seen value 0x80 0xBF (remaining + 1)
        (UInt8.ofNat (bits % 64 + 0x80) :: rest) =
      scanContinuation (seen + 1) (64 * value + bits % 64) 0x80 0xBF
        remaining rest :=
  scanContinuation_ofNat
    (show 128 ≤ _ by omega)
    (show _ ≤ 191 by omega)

/-! What the leading byte of two, three and four bytes announces. -/

theorem leadingShape?_two
    {lead : Nat}
    (above : 0xC2 ≤ lead)
    (below : lead ≤ 0xDF) :
    leadingShape? (UInt8.ofNat lead) = some (1, lead % 32, 0x80, 0xBF) := by
  interval_cases lead <;> rfl

theorem leadingShape?_three
    {lead : Nat}
    (above : 0xE0 ≤ lead)
    (below : lead ≤ 0xEF) :
    leadingShape? (UInt8.ofNat lead) =
      some (2, lead % 16,
        if lead = 0xE0 then 0xA0 else 0x80,
        if lead = 0xED then 0x9F else 0xBF) := by
  interval_cases lead <;> rfl

theorem leadingShape?_four
    {lead : Nat}
    (above : 0xF0 ≤ lead)
    (below : lead ≤ 0xF4) :
    leadingShape? (UInt8.ofNat lead) =
      some (3, lead % 8,
        if lead = 0xF0 then 0x90 else 0x80,
        if lead = 0xF4 then 0x8F else 0xBF) := by
  interval_cases lead <;> rfl

/-- A leading byte of 128 or more is read by its shape. -/
private theorem scanScalar_of_shape
    {lead count payload : Nat}
    {low high : UInt8}
    {rest : Bytes}
    (above : 0x80 ≤ lead)
    (fits : lead < 256)
    (shape :
      leadingShape? (UInt8.ofNat lead) = some (count, payload, low, high)) :
    scanScalar (UInt8.ofNat lead) rest =
      scanContinuation 1 payload low high count rest := by
  have notAscii : ¬ UInt8.ofNat lead < 0x80 := by
    rw [UInt8.lt_iff_toNat_lt, toNat_ofNat_byte fits]
    exact Nat.not_lt.mpr above
  simp only [scanScalar, notAscii, ↓reduceIte, shape]

theorem scanScalar_two
    {number : Nat}
    {rest : Bytes}
    (above : 0x7F < number)
    (below : number ≤ 0x7FF) :
    scanScalar
        (UInt8.ofNat (number / 64 % 0x20 + 0xC0))
        (UInt8.ofNat (number % 0x40 + 0x80) :: rest) =
      .scalar (Char.ofNat number) rest := by
  have bits : 64 * ((number / 64 % 0x20 + 0xC0) % 32) + number % 64 = number := by
    omega
  rw [scanScalar_of_shape (by omega) (by omega)
      (leadingShape?_two (by omega) (by omega)),
    scanContinuation_next, scanContinuation, bits]

theorem scanScalar_three
    {number : Nat}
    {rest : Bytes}
    (above : 0x7FF < number)
    (below : number ≤ 0xFFFF)
    (scalar : number < 0xD800 ∨ 0xDFFF < number) :
    scanScalar
        (UInt8.ofNat (number / 4096 % 0x10 + 0xE0))
        (UInt8.ofNat (number / 64 % 0x40 + 0x80) ::
          UInt8.ofNat (number % 0x40 + 0x80) :: rest) =
      .scalar (Char.ofNat number) rest := by
  have bits :
      64 * (64 * ((number / 4096 % 0x10 + 0xE0) % 16) + number / 64 % 64) +
          number % 64 = number := by
    omega
  rw [scanScalar_of_shape (by omega) (by omega)
      (leadingShape?_three (by omega) (by omega)),
    scanContinuation_ofNat, scanContinuation_next, scanContinuation, bits]
  -- A second byte below these bounds would make the form overlong.
  · split
    · show 160 ≤ _
      omega
    · show 128 ≤ _
      omega
  -- A second byte above these bounds would make a surrogate.
  · split
    · show _ ≤ 159
      omega
    · show _ ≤ 191
      omega

theorem scanScalar_four
    {number : Nat}
    {rest : Bytes}
    (above : 0xFFFF < number)
    (below : number < 0x110000) :
    scanScalar
        (UInt8.ofNat (number / 262144 % 0x08 + 0xF0))
        (UInt8.ofNat (number / 4096 % 0x40 + 0x80) ::
          UInt8.ofNat (number / 64 % 0x40 + 0x80) ::
          UInt8.ofNat (number % 0x40 + 0x80) :: rest) =
      .scalar (Char.ofNat number) rest := by
  have bits :
      64 * (64 * (64 * ((number / 262144 % 0x08 + 0xF0) % 8) +
            number / 4096 % 64) + number / 64 % 64) + number % 64 = number := by
    omega
  rw [scanScalar_of_shape (by omega) (by omega)
      (leadingShape?_four (by omega) (by omega)),
    scanContinuation_ofNat, scanContinuation_next, scanContinuation_next,
    scanContinuation, bits]
  · split
    · show 144 ≤ _
      omega
    · show 128 ≤ _
      omega
  -- A second byte above these bounds would pass U+10FFFF.
  · split
    · show _ ≤ 143
      omega
    · show _ ≤ 191
      omega

/-- The bytes of a character, a leading one and others, read as this character. -/
theorem scanScalar_utf8EncodeChar
    (char : Char)
    (rest : Bytes) :
    ∃ lead tail,
      String.utf8EncodeChar char = lead :: tail ∧
        scanScalar lead (tail ++ rest) = .scalar char rest := by
  have scalar :
      char.val.toNat < 0xD800 ∨
        0xDFFF < char.val.toNat ∧ char.val.toNat < 0x110000 :=
    char.valid
  have same : Char.ofNat char.val.toNat = char := Char.ofNat_toNat char
  fun_cases String.utf8EncodeChar char with
  | case1 number one =>
      refine ⟨_, _, rfl, ?_⟩
      have value : (UInt8.ofNat number).toNat = number :=
        toNat_ofNat_byte (by omega)
      have ascii : UInt8.ofNat number < 0x80 := by
        rw [UInt8.lt_iff_toNat_lt, value]
        exact Nat.lt_succ_of_le one
      rw [scanScalar, if_pos ascii, value, same, List.nil_append]
  | case2 number one two =>
      refine ⟨_, _, rfl, ?_⟩
      rw [List.cons_append, List.nil_append,
        scanScalar_two (Nat.lt_of_not_le one) two, same]
  | case3 number one two three =>
      refine ⟨_, _, rfl, ?_⟩
      simp only [List.cons_append, List.nil_append]
      rw [scanScalar_three (Nat.lt_of_not_le two) three (by omega), same]
  | case4 number one two three =>
      refine ⟨_, _, rfl, ?_⟩
      simp only [List.cons_append, List.nil_append]
      rw [scanScalar_four (Nat.lt_of_not_le three) (by omega), same]

/-- Reading the bytes of characters gives these characters, whatever came before. -/
theorem decodeFrom_utf8Encode
    (validUpTo : Nat)
    (chars : List Char) :
    decodeFrom validUpTo (chars.flatMap String.utf8EncodeChar) = .ok chars := by
  induction chars generalizing validUpTo with
  | nil =>
      simp [decodeFrom]
  | cons char chars inductionHypothesis =>
      obtain ⟨lead, tail, written, scanned⟩ :=
        scanScalar_utf8EncodeChar char (chars.flatMap String.utf8EncodeChar)
      rw [List.flatMap_cons, written, List.cons_append, decodeFrom]
      split
      · rename_i value rest read
        rw [scanned] at read
        cases read
        rw [inductionHypothesis]
      · rename_i length read
        rw [scanned] at read
        cases read
      · rename_i read
        rw [scanned] at read
        cases read

/-- The bytes of a text are those of its characters. -/
theorem encode_eq_flatMap (text : String) :
    encode text = text.toList.flatMap String.utf8EncodeChar := by
  rw [encode, String.toUTF8_eq_toByteArray, ← String.utf8Encode_toList,
    List.utf8Encode, List.toList_data_toByteArray]

/-- The bytes of a text read as this text. -/
theorem decode_encode (text : String) :
    decode (encode text) = .ok text := by
  rw [decode, encode_eq_flatMap, decodeFrom_utf8Encode]
  simp [Except.map]

end GrpcDiscovery.Utf8
