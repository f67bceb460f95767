import GrpcDiscovery.Reflection.Answer
import Mathlib.Data.List.Perm.Basic

namespace GrpcDiscovery

/-!
# Base64 texts

A text is read in four ways, by either alphabet and with padding or without. Bytes have one
encoding for each of them, and each way of reading takes the encodings of its kind and
nothing else. Encodings of different bytes differ, of whatever kinds they are, so that a
text can be read as one sequence of bytes at most, and the order of trying is no matter.
-/

namespace Base64

/-! ## Encodings -/

/-- The alphabets that are in use. -/
inductive Alphabet.IsUsed : Alphabet → Prop where
  | standard :
      IsUsed .standard
  | urlSafe :
      IsUsed .urlSafe

/-- The digits of an alphabet in order of their values. -/
def Alphabet.digits (alphabet : Alphabet) : List Char :=
  "ABCDEFGHIJKLMNOPQRSTUVWXYZabcdefghijklmnopqrstuvwxyz0123456789".toList ++
    [alphabet.digit62, alphabet.digit63]

/-- The digit of a value below sixty-four. -/
def Alphabet.digit
    (alphabet : Alphabet)
    (value : Nat) :
    Char :=
  alphabet.digits.getD value '='

/--
The bits of bytes, six at a time.

Three bytes make four groups. One or two bytes at the end make two or three, and the last
of these is filled up with bits of nought.
-/
def sextets : Bytes → List Nat
  | [] =>
      []
  | [a] =>
      [a.toNat / 4, a.toNat % 4 * 16]
  | [a, b] =>
      [a.toNat / 4, a.toNat % 4 * 16 + b.toNat / 16, b.toNat % 16 * 4]
  | a :: b :: c :: rest =>
      a.toNat / 4 :: (a.toNat % 4 * 16 + b.toNat / 16) ::
        (b.toNat % 16 * 4 + c.toNat / 64) :: c.toNat % 64 :: sextets rest

/-- How many digits a number of bytes lacks, so that digits come in fours. -/
def missingDigits (count : Nat) : Nat :=
  (3 - count % 3) % 3

/-- The encoding of bytes by an alphabet, which is padded or is not. -/
def encode
    (alphabet : Alphabet)
    (padded : Bool)
    (bytes : Bytes) :
    List Char :=
  (sextets bytes).map alphabet.digit ++
    List.replicate (if padded then missingDigits bytes.length else 0) '='

theorem encode_cons_cons_cons
    (alphabet : Alphabet)
    (padded : Bool)
    (a b c : UInt8)
    (rest : Bytes) :
    encode alphabet padded (a :: b :: c :: rest) =
      alphabet.digit (a.toNat / 4) :: alphabet.digit (a.toNat % 4 * 16 + b.toNat / 16) ::
        alphabet.digit (b.toNat % 16 * 4 + c.toNat / 64) :: alphabet.digit (c.toNat % 64) ::
          encode alphabet padded rest := by
  have sameLack : missingDigits (rest.length + 3) = missingDigits rest.length := by
    simp only [missingDigits, Nat.add_mod_right]
  simp only [encode, sextets, List.map_cons, List.cons_append, List.length_cons, sameLack]

/-- Bytes have values of six bits. -/
theorem lt_of_mem_sextets
    {bytes : Bytes}
    {value : Nat}
    (member : value ∈ sextets bytes) :
    value < 64 := by
  induction bytes using sextets.induct with
  | case1 =>
      simp [sextets] at member
  | case2 a =>
      have := a.toNat_lt
      simp only [sextets, List.mem_cons, List.not_mem_nil, or_false] at member
      omega
  | case3 a b =>
      have := a.toNat_lt
      have := b.toNat_lt
      simp only [sextets, List.mem_cons, List.not_mem_nil, or_false] at member
      omega
  | case4 a b c rest inductionHypothesis =>
      have := a.toNat_lt
      have := b.toNat_lt
      have := c.toNat_lt
      simp only [sextets, List.mem_cons] at member
      rcases member with first | second | third | fourth | inRest
      · omega
      · omega
      · omega
      · omega
      · exact inductionHypothesis inRest

/-- Bytes can be told from their bits. -/
theorem sextets_injective : Function.Injective sextets := by
  intro bytes others same
  induction bytes using sextets.induct generalizing others with
  | case1 =>
      match others with
      | [] =>
          rfl
      | [_] | [_, _] | _ :: _ :: _ :: _ =>
          simp [sextets] at same
  | case2 a =>
      match others with
      | [x] =>
          simp only [sextets, List.cons.injEq, and_true] at same
          obtain rfl : a = x := UInt8.toNat_inj.mp (by omega)
          rfl
      | [] | [_, _] | _ :: _ :: _ :: _ =>
          simp [sextets] at same
  | case3 a b =>
      match others with
      | [x, y] =>
          simp only [sextets, List.cons.injEq, and_true] at same
          have := b.toNat_lt
          have := y.toNat_lt
          obtain rfl : a = x := UInt8.toNat_inj.mp (by omega)
          obtain rfl : b = y := UInt8.toNat_inj.mp (by omega)
          rfl
      | [] | [_] | _ :: _ :: _ :: _ =>
          simp [sextets] at same
  | case4 a b c rest inductionHypothesis =>
      match others with
      | x :: y :: z :: others =>
          simp only [sextets, List.cons.injEq] at same
          obtain ⟨first, second, third, fourth, sameRest⟩ := same
          have := b.toNat_lt
          have := y.toNat_lt
          have := c.toNat_lt
          have := z.toNat_lt
          obtain rfl : a = x := UInt8.toNat_inj.mp (by omega)
          obtain rfl : b = y := UInt8.toNat_inj.mp (by omega)
          obtain rfl : c = z := UInt8.toNat_inj.mp (by omega)
          rw [inductionHypothesis sameRest]
      | [] | [_] | [_, _] =>
          simp [sextets] at same

/-! ## Digits -/

section Digits

variable {alphabet other : Alphabet} {char : Char} {value : Nat}

/-- A character that has a value is one of ASCII. -/
theorem toNat_lt_of_value?
    (used : alphabet.IsUsed)
    (valued : alphabet.value? char = some value) :
    char.toNat < 128 := by
  by_contra foreign
  have above (last : Char) (ascii : last.toNat < 128) : ¬ char ≤ last := by
    intro below
    have := UInt32.le_iff_toNat_le.mp (Char.le_def.mp below)
    exact foreign (Nat.lt_of_le_of_lt this ascii)
  have differs (digit : Char) (ascii : digit.toNat < 128) : char ≠ digit := by
    rintro rfl
    exact foreign ascii
  have noValue : alphabet.value? char = none := by
    cases used <;>
      simp [Alphabet.value?, Alphabet.standard, Alphabet.urlSafe, above 'Z' (by decide),
        above 'z' (by decide), above '9' (by decide), differs '+' (by decide),
        differs '/' (by decide), differs '-' (by decide), differs '_' (by decide)]
  rw [noValue] at valued
  cases valued

/-- What holds of the characters of ASCII that have values holds of all that have. -/
theorem of_value?
    {motive : Char → Nat → Prop}
    (checked : ∀ code < 128, ∀ found ∈ alphabet.value? (Char.ofNat code),
      motive (Char.ofNat code) found)
    (used : alphabet.IsUsed)
    (valued : alphabet.value? char = some value) :
    motive char value := by
  have ascii := toNat_lt_of_value? used valued
  rw [← Char.ofNat_toNat char] at valued ⊢
  exact checked char.toNat ascii value valued

/-- A character with a value is the digit of that value. -/
theorem eq_digit_of_value?
    (used : alphabet.IsUsed)
    (valued : alphabet.value? char = some value) :
    value < 64 ∧ char = alphabet.digit value := by
  refine of_value? (motive := fun char value => value < 64 ∧ char = alphabet.digit value)
    ?_ used valued
  cases used <;> decide +kernel

/-- No character has two values, not even by two alphabets. -/
theorem value?_agree
    (used : alphabet.IsUsed)
    (otherUsed : other.IsUsed)
    (valued : alphabet.value? char = some value)
    {otherValue : Nat}
    (otherValued : other.value? char = some otherValue) :
    value = otherValue := by
  refine of_value? (motive := fun char value => ∀ found ∈ other.value? char, value = found)
    ?_ used valued otherValue otherValued
  cases used <;> cases otherUsed <;> decide +kernel

theorem value?_digit
    (used : alphabet.IsUsed)
    (small : value < 64) :
    alphabet.value? (alphabet.digit value) = some value := by
  revert value
  cases used <;> decide +kernel

theorem digit_ne_pad
    (used : alphabet.IsUsed)
    (small : value < 64) :
    alphabet.digit value ≠ '=' := by
  intro pad
  have valued := value?_digit used small
  rw [pad] at valued
  cases used <;> cases valued

end Digits

/-! ## Reading and encoding -/

variable {alphabet other : Alphabet}

/-- Two digits are read as a byte if they are its encoding. -/
theorem exists_of_oneByte?
    (used : alphabet.IsUsed)
    {a b : Char}
    {bytes : Bytes}
    (read : oneByte? alphabet a b = some bytes) :
    ∃ x, bytes = [x] ∧ [a, b] = (sextets [x]).map alphabet.digit := by
  simp only [oneByte?, Option.bind_eq_bind, Option.bind_eq_some_iff] at read
  obtain ⟨high, ofA, low, ofB, whole⟩ := read
  obtain ⟨highSmall, rfl⟩ := eq_digit_of_value? used ofA
  obtain ⟨lowSmall, rfl⟩ := eq_digit_of_value? used ofB
  split at whole
  · rename_i noughts
    refine ⟨UInt8.ofNat ((high * 64 + low) / 16), (Option.some.inj whole).symm, ?_⟩
    have value : (UInt8.ofNat ((high * 64 + low) / 16)).toNat = (high * 64 + low) / 16 := by
      rw [UInt8.toNat_ofNat']
      omega
    have first : (high * 64 + low) / 16 / 4 = high := by omega
    have second : (high * 64 + low) / 16 % 4 * 16 = low := by omega
    simp only [sextets, value, first, second, List.map_cons, List.map_nil]
  · cases whole

/-- Three digits are read as two bytes if they are their encoding. -/
theorem exists_of_twoBytes?
    (used : alphabet.IsUsed)
    {a b c : Char}
    {bytes : Bytes}
    (read : twoBytes? alphabet a b c = some bytes) :
    ∃ x y, bytes = [x, y] ∧ [a, b, c] = (sextets [x, y]).map alphabet.digit := by
  simp only [twoBytes?, Option.bind_eq_bind, Option.bind_eq_some_iff] at read
  obtain ⟨high, ofA, middle, ofB, low, ofC, whole⟩ := read
  obtain ⟨highSmall, rfl⟩ := eq_digit_of_value? used ofA
  obtain ⟨middleSmall, rfl⟩ := eq_digit_of_value? used ofB
  obtain ⟨lowSmall, rfl⟩ := eq_digit_of_value? used ofC
  split at whole
  · rename_i noughts
    generalize total : (high * 64 + middle) * 64 + low = bits at noughts whole
    refine ⟨UInt8.ofNat (bits / 1024), UInt8.ofNat (bits / 4), (Option.some.inj whole).symm, ?_⟩
    have firstByte : (UInt8.ofNat (bits / 1024)).toNat = bits / 1024 := by
      rw [UInt8.toNat_ofNat']
      omega
    have secondByte : (UInt8.ofNat (bits / 4)).toNat = bits / 4 % 256 := UInt8.toNat_ofNat'
    have first : bits / 1024 / 4 = high := by omega
    have second : bits / 1024 % 4 * 16 + bits / 4 % 256 / 16 = middle := by omega
    have third : bits / 4 % 256 % 16 * 4 = low := by omega
    simp only [sextets, firstByte, secondByte, first, second, third, List.map_cons, List.map_nil]
  · cases whole

/-- Four digits are read as three bytes if they are their encoding. -/
theorem exists_of_threeBytes?
    (used : alphabet.IsUsed)
    {a b c d : Char}
    {bytes : Bytes}
    (read : threeBytes? alphabet a b c d = some bytes) :
    ∃ x y z, bytes = [x, y, z] ∧ [a, b, c, d] = (sextets [x, y, z]).map alphabet.digit := by
  simp only [threeBytes?, Option.bind_eq_bind, Option.bind_eq_some_iff] at read
  obtain ⟨first, ofA, second, ofB, third, ofC, fourth, ofD, whole⟩ := read
  obtain ⟨firstSmall, rfl⟩ := eq_digit_of_value? used ofA
  obtain ⟨secondSmall, rfl⟩ := eq_digit_of_value? used ofB
  obtain ⟨thirdSmall, rfl⟩ := eq_digit_of_value? used ofC
  obtain ⟨fourthSmall, rfl⟩ := eq_digit_of_value? used ofD
  generalize total : ((first * 64 + second) * 64 + third) * 64 + fourth = bits at whole
  refine ⟨UInt8.ofNat (bits / 65536), UInt8.ofNat (bits / 256), UInt8.ofNat bits,
    (Option.some.inj whole).symm, ?_⟩
  have firstByte : (UInt8.ofNat (bits / 65536)).toNat = bits / 65536 := by
    rw [UInt8.toNat_ofNat']
    omega
  have secondByte : (UInt8.ofNat (bits / 256)).toNat = bits / 256 % 256 := UInt8.toNat_ofNat'
  have thirdByte : (UInt8.ofNat bits).toNat = bits % 256 := UInt8.toNat_ofNat'
  have sameFirst : bits / 65536 / 4 = first := by omega
  have sameSecond : bits / 65536 % 4 * 16 + bits / 256 % 256 / 16 = second := by omega
  have sameThird : bits / 256 % 256 % 16 * 4 + bits % 256 / 64 = third := by omega
  have sameFourth : bits % 256 % 64 = fourth := by omega
  simp only [sextets, firstByte, secondByte, thirdByte, sameFirst, sameSecond, sameThird,
    sameFourth, List.map_cons, List.map_nil]

/-- What is read as bytes is their encoding, along the way in which it is read. -/
theorem eq_encode_of_decodeAs?
    (used : alphabet.IsUsed)
    {padded : Bool}
    {text : List Char}
    {bytes : Bytes}
    (read : decodeAs? alphabet padded text = some bytes) :
    text = encode alphabet padded bytes := by
  fun_induction decodeAs? alphabet padded text generalizing bytes with
  | case1 =>
      cases read
      cases padded <;> rfl
  | case2 a b padded =>
      cases read
  | case3 a b unpadded =>
      obtain ⟨x, rfl, digits⟩ := exists_of_oneByte? used read
      rw [encode, ← digits, if_neg unpadded]
      rfl
  | case4 a b c padded =>
      cases read
  | case5 a b c unpadded =>
      obtain ⟨x, y, rfl, digits⟩ := exists_of_twoBytes? used read
      rw [encode, ← digits, if_neg unpadded]
      rfl
  | case6 a b padded =>
      obtain ⟨x, rfl, digits⟩ := exists_of_oneByte? used read
      rw [encode, ← digits, if_pos padded]
      rfl
  | case7 a b unpadded =>
      cases read
  | case8 a b c notTwo padded =>
      obtain ⟨x, y, rfl, digits⟩ := exists_of_twoBytes? used read
      rw [encode, ← digits, if_pos padded]
      rfl
  | case9 a b c notTwo unpadded =>
      cases read
  | case10 a b c d rest notTwo notThree inductionHypothesis =>
      simp only [Option.bind_eq_bind, Option.bind_eq_some_iff] at read
      obtain ⟨group, readGroup, others, readRest, joined⟩ := read
      obtain ⟨x, y, z, rfl, digits⟩ := exists_of_threeBytes? used readGroup
      obtain rfl := Option.some.inj joined
      rw [inductionHypothesis readRest, List.cons_append, List.cons_append, List.cons_append,
        List.nil_append, encode_cons_cons_cons]
      simpa [sextets] using digits
  | case11 =>
      cases read

/-- The two digits of a byte are read as it. -/
theorem oneByte?_digits
    (used : alphabet.IsUsed)
    (a : UInt8) :
    oneByte? alphabet (alphabet.digit (a.toNat / 4)) (alphabet.digit (a.toNat % 4 * 16)) =
      some [a] := by
  have := a.toNat_lt
  have noughts : (a.toNat / 4 * 64 + a.toNat % 4 * 16) % 16 = 0 := by omega
  have whole : (a.toNat / 4 * 64 + a.toNat % 4 * 16) / 16 = a.toNat := by omega
  simp only [oneByte?, value?_digit used (show a.toNat / 4 < 64 by omega),
    value?_digit used (show a.toNat % 4 * 16 < 64 by omega), Option.bind_eq_bind,
    Option.bind_some, noughts, whole, UInt8.ofNat_toNat, if_true]
  rfl

/-- The three digits of two bytes are read as these. -/
theorem twoBytes?_digits
    (used : alphabet.IsUsed)
    (a b : UInt8) :
    twoBytes? alphabet (alphabet.digit (a.toNat / 4))
        (alphabet.digit (a.toNat % 4 * 16 + b.toNat / 16)) (alphabet.digit (b.toNat % 16 * 4)) =
      some [a, b] := by
  have := a.toNat_lt
  have := b.toNat_lt
  have total : (a.toNat / 4 * 64 + (a.toNat % 4 * 16 + b.toNat / 16)) * 64 + b.toNat % 16 * 4 =
      (a.toNat * 256 + b.toNat) * 4 := by omega
  have noughts : (a.toNat * 256 + b.toNat) * 4 % 4 = 0 := by omega
  have first : UInt8.ofNat ((a.toNat * 256 + b.toNat) * 4 / 1024) = a := by
    apply UInt8.toNat_inj.mp
    rw [UInt8.toNat_ofNat']
    omega
  have second : UInt8.ofNat ((a.toNat * 256 + b.toNat) * 4 / 4) = b := by
    apply UInt8.toNat_inj.mp
    rw [UInt8.toNat_ofNat']
    omega
  simp only [twoBytes?, value?_digit used (show a.toNat / 4 < 64 by omega),
    value?_digit used (show a.toNat % 4 * 16 + b.toNat / 16 < 64 by omega),
    value?_digit used (show b.toNat % 16 * 4 < 64 by omega), Option.bind_eq_bind,
    Option.bind_some, total, noughts, first, second, if_true]
  rfl

/-- The four digits of three bytes are read as these. -/
theorem threeBytes?_digits
    (used : alphabet.IsUsed)
    (a b c : UInt8) :
    threeBytes? alphabet (alphabet.digit (a.toNat / 4))
        (alphabet.digit (a.toNat % 4 * 16 + b.toNat / 16))
        (alphabet.digit (b.toNat % 16 * 4 + c.toNat / 64)) (alphabet.digit (c.toNat % 64)) =
      some [a, b, c] := by
  have := a.toNat_lt
  have := b.toNat_lt
  have := c.toNat_lt
  have total : ((a.toNat / 4 * 64 + (a.toNat % 4 * 16 + b.toNat / 16)) * 64 +
      (b.toNat % 16 * 4 + c.toNat / 64)) * 64 + c.toNat % 64 =
        (a.toNat * 256 + b.toNat) * 256 + c.toNat := by omega
  have first : UInt8.ofNat (((a.toNat * 256 + b.toNat) * 256 + c.toNat) / 65536) = a := by
    apply UInt8.toNat_inj.mp
    rw [UInt8.toNat_ofNat']
    omega
  have second : UInt8.ofNat (((a.toNat * 256 + b.toNat) * 256 + c.toNat) / 256) = b := by
    apply UInt8.toNat_inj.mp
    rw [UInt8.toNat_ofNat']
    omega
  have third : UInt8.ofNat ((a.toNat * 256 + b.toNat) * 256 + c.toNat) = c := by
    apply UInt8.toNat_inj.mp
    rw [UInt8.toNat_ofNat']
    omega
  simp only [threeBytes?, value?_digit used (show a.toNat / 4 < 64 by omega),
    value?_digit used (show a.toNat % 4 * 16 + b.toNat / 16 < 64 by omega),
    value?_digit used (show b.toNat % 16 * 4 + c.toNat / 64 < 64 by omega),
    value?_digit used (show c.toNat % 64 < 64 by omega), Option.bind_eq_bind,
    Option.bind_some, total, first, second, third]
  rfl

/-- The encoding of bytes is read as these bytes. -/
theorem decodeAs?_encode
    (used : alphabet.IsUsed)
    (padded : Bool)
    (bytes : Bytes) :
    decodeAs? alphabet padded (encode alphabet padded bytes) = some bytes := by
  induction bytes using sextets.induct with
  | case1 =>
      cases padded <;> rfl
  | case2 a =>
      cases padded <;> exact oneByte?_digits used a
  | case3 a b =>
      have third : alphabet.digit (b.toNat % 16 * 4) ≠ '=' := digit_ne_pad used (by omega)
      cases padded with
      | false =>
          exact twoBytes?_digits used a b
      | true =>
          rw [← twoBytes?_digits used a b]
          simp [encode, sextets, missingDigits, decodeAs?]
  | case4 a b c rest inductionHypothesis =>
      have third : alphabet.digit (b.toNat % 16 * 4 + c.toNat / 64) ≠ '=' :=
        digit_ne_pad used (by have := c.toNat_lt; omega)
      have fourth : alphabet.digit (c.toNat % 64) ≠ '=' := digit_ne_pad used (by omega)
      rw [encode_cons_cons_cons, decodeAs?, threeBytes?_digits used, inductionHypothesis]
      · rfl
      · exact fun pad _ _ => third pad
      · exact fun pad _ => fourth pad

/-- A way of reading takes the encodings of its kind. -/
theorem decodeAs?_eq_some_iff
    (used : alphabet.IsUsed)
    {padded : Bool}
    {text : List Char}
    {bytes : Bytes} :
    decodeAs? alphabet padded text = some bytes ↔ text = encode alphabet padded bytes := by
  constructor
  · exact eq_encode_of_decodeAs? used
  · rintro rfl
    exact decodeAs?_encode used padded bytes

/-! ## Encodings of several kinds -/

theorem digit_inj
    (used : alphabet.IsUsed)
    (otherUsed : other.IsUsed)
    {value otherValue : Nat}
    (small : value < 64)
    (otherSmall : otherValue < 64)
    (same : alphabet.digit value = other.digit otherValue) :
    value = otherValue := by
  have valued := value?_digit used small
  rw [same] at valued
  exact value?_agree used otherUsed valued (value?_digit otherUsed otherSmall)

/-- Digits stand for the same values by either alphabet. -/
theorem eq_of_map_digit_eq
    (used : alphabet.IsUsed)
    (otherUsed : other.IsUsed)
    {values others : List Nat}
    (small : ∀ value ∈ values, value < 64)
    (otherSmall : ∀ value ∈ others, value < 64)
    (same : values.map alphabet.digit = others.map other.digit) :
    values = others := by
  induction values generalizing others with
  | nil =>
      exact (List.map_eq_nil_iff.mp same.symm).symm
  | cons value rest inductionHypothesis =>
      obtain ⟨first, tail, rfl, sameFirst, sameRest⟩ := List.map_eq_cons_iff.mp same.symm
      rw [List.forall_mem_cons] at small otherSmall
      rw [digit_inj used otherUsed small.1 otherSmall.1 sameFirst.symm,
        inductionHypothesis small.2 otherSmall.2 sameRest.symm]

/-- What is left of an encoding without its padding are the digits of the bits. -/
theorem filter_encode
    (used : alphabet.IsUsed)
    (padded : Bool)
    (bytes : Bytes) :
    (encode alphabet padded bytes).filter (· ≠ '=') = (sextets bytes).map alphabet.digit := by
  have digits : ∀ char ∈ (sextets bytes).map alphabet.digit, decide (char ≠ '=') = true := by
    intro char member
    obtain ⟨value, inside, rfl⟩ := List.mem_map.mp member
    exact decide_eq_true (digit_ne_pad used (lt_of_mem_sextets inside))
  rw [encode, List.filter_append, List.filter_eq_self.mpr digits, List.filter_replicate]
  simp

/-- Different bytes have different encodings, of the same kind or not. -/
theorem encode_inj
    (used : alphabet.IsUsed)
    (otherUsed : other.IsUsed)
    {padded otherPadded : Bool}
    {bytes others : Bytes}
    (same : encode alphabet padded bytes = encode other otherPadded others) :
    bytes = others := by
  have sameDigits := congrArg (List.filter (· ≠ '=')) same
  rw [filter_encode used, filter_encode otherUsed] at sameDigits
  exact sextets_injective (eq_of_map_digit_eq used otherUsed (fun _ => lt_of_mem_sextets)
    (fun _ => lt_of_mem_sextets) sameDigits)

/-- The ways of reading, in the order in which they are tried. -/
def readings : List (Alphabet × Bool) :=
  [(.standard, true), (.standard, false), (.urlSafe, true), (.urlSafe, false)]

theorem mem_readings_iff (reading : Alphabet × Bool) :
    reading ∈ readings ↔ reading.1.IsUsed := by
  obtain ⟨alphabet, padded⟩ := reading
  constructor
  · intro member
    simp only [readings, List.mem_cons, Prod.mk.injEq, List.not_mem_nil, or_false] at member
    rcases member with ⟨rfl, _⟩ | ⟨rfl, _⟩ | ⟨rfl, _⟩ | ⟨rfl, _⟩
    · exact .standard
    · exact .standard
    · exact .urlSafe
    · exact .urlSafe
  · intro used
    cases used <;> cases padded <;> decide

/-- A text is an encoding of bytes, by one alphabet or the other, padded or not. -/
def IsEncoding
    (text : String)
    (bytes : Bytes) :
    Prop :=
  ∃ alphabet padded, Alphabet.IsUsed alphabet ∧ text.toList = encode alphabet padded bytes

/-- A text is read in one of some ways if it is an encoding of one of their kinds. -/
theorem findSome?_eq_some_iff
    {order : List (Alphabet × Bool)}
    (used : ∀ reading ∈ order, reading.1.IsUsed)
    {text : List Char}
    {bytes : Bytes} :
    order.findSome? (fun reading => decodeAs? reading.1 reading.2 text) = some bytes ↔
      ∃ reading ∈ order, text = encode reading.1 reading.2 bytes := by
  constructor
  · intro read
    obtain ⟨reading, member, readAs⟩ := List.exists_of_findSome?_eq_some read
    exact ⟨reading, member, (decodeAs?_eq_some_iff (used reading member)).mp readAs⟩
  · rintro ⟨reading, member, isEncoding⟩
    have readAs := (decodeAs?_eq_some_iff (used reading member)).mpr isEncoding
    cases first : order.findSome? fun reading => decodeAs? reading.1 reading.2 text with
    | none =>
        rw [List.findSome?_eq_none_iff.mp first reading member] at readAs
        cases readAs
    | some others =>
        obtain ⟨other, otherMember, otherRead⟩ := List.exists_of_findSome?_eq_some first
        have otherEncoding := (decodeAs?_eq_some_iff (used other otherMember)).mp otherRead
        rw [encode_inj (used other otherMember) (used reading member)
          (otherEncoding.symm.trans isEncoding)]

theorem decode?_eq_findSome? (text : String) :
    decode? text =
      readings.findSome? fun reading => decodeAs? reading.1 reading.2 text.toList := by
  simp only [decode?, readings, List.findSome?_cons, List.findSome?_nil]
  cases decodeAs? .standard true text.toList <;>
    cases decodeAs? .standard false text.toList <;>
      cases decodeAs? .urlSafe true text.toList <;>
        cases decodeAs? .urlSafe false text.toList <;> rfl

/-- A text is read as the bytes of which it is an encoding. -/
theorem decode?_eq_some_iff
    {text : String}
    {bytes : Bytes} :
    decode? text = some bytes ↔ IsEncoding text bytes := by
  rw [decode?_eq_findSome?, findSome?_eq_some_iff fun reading => (mem_readings_iff reading).mp]
  constructor
  · rintro ⟨reading, member, isEncoding⟩
    exact ⟨reading.1, reading.2, (mem_readings_iff reading).mp member, isEncoding⟩
  · rintro ⟨alphabet, padded, used, isEncoding⟩
    exact ⟨(alphabet, padded), (mem_readings_iff (alphabet, padded)).mpr used, isEncoding⟩

/-- A text that is an encoding of no bytes is not read. -/
theorem decode?_eq_none_iff {text : String} :
    decode? text = none ↔ ∀ bytes, ¬ IsEncoding text bytes := by
  simp only [Option.eq_none_iff_forall_ne_some, ne_eq, decode?_eq_some_iff]

/-- The order of trying is no matter. -/
theorem findSome?_eq_decode?
    {order : List (Alphabet × Bool)}
    (sameReadings : order.Perm readings)
    (text : String) :
    order.findSome? (fun reading => decodeAs? reading.1 reading.2 text.toList) = decode? text := by
  have used (reading : Alphabet × Bool) (member : reading ∈ order) : reading.1.IsUsed :=
    (mem_readings_iff reading).mp (sameReadings.mem_iff.mp member)
  ext bytes
  rw [decode?_eq_findSome?, findSome?_eq_some_iff used,
    findSome?_eq_some_iff fun reading => (mem_readings_iff reading).mp]
  simp only [sameReadings.mem_iff]

end Base64

/--
A descriptor that is sent as a text is the bytes of which the text is an encoding, by one
alphabet or the other, padded or not, and a text that is no encoding is malformed.

No other order of trying these kinds of encodings would make a difference.
-/
theorem ReflectionAnswer.files_of_text
    (text : String)
    (services : Option (List String))
    (refusal : Option (Int32 × String)) :
    (∀ bytes, files ⟨services, some [text], refusal⟩ = .ok [bytes] ↔
      Base64.IsEncoding text bytes) ∧
    (files ⟨services, some [text], refusal⟩ = .error (.malformedDescriptor .notBase64) ↔
      ∀ bytes, ¬ Base64.IsEncoding text bytes) ∧
    (∀ order : List (Base64.Alphabet × Bool), order.Perm Base64.readings →
      order.findSome? (fun reading => Base64.decodeAs? reading.1 reading.2 text.toList) =
        Base64.decode? text) := by
  refine ⟨?_, ?_, fun order sameReadings => Base64.findSome?_eq_decode? sameReadings text⟩
  · intro bytes
    rw [← Base64.decode?_eq_some_iff, files]
    cases read : Base64.decode? text <;> simp [read]
  · rw [← Base64.decode?_eq_none_iff, files]
    cases read : Base64.decode? text <;> simp [read]

/-- Two bytes in the second alphabet without padding, whatever is tried first. -/
theorem ReflectionAnswer.files_of_text_urlSafe :
    files ⟨none, some ["-_8"], none⟩ = .ok [[251, 255]] ∧
    Base64.readings.reverse.findSome? (fun reading =>
      Base64.decodeAs? reading.1 reading.2 "-_8".toList) = Base64.decode? "-_8" := by
  obtain ⟨decodes, _, anyOrder⟩ := files_of_text "-_8" none none
  exact ⟨(decodes [251, 255]).mpr ⟨.urlSafe, false, .urlSafe, by decide +kernel⟩,
    anyOrder _ (List.reverse_perm Base64.readings)⟩

/-- Not an encoding: a sign of padding too few, bits left over, two alphabets, a blank. -/
example :
    Base64.decode? "QQ==" = some [65] ∧ Base64.decode? "QQ" = some [65] ∧
    Base64.decode? "QQ=" = none ∧ Base64.decode? "QR==" = none ∧
    Base64.decode? "+_8=" = none ∧ Base64.decode? "QQ== " = none := by
  decide +kernel

end GrpcDiscovery
