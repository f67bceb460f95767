import GrpcDiscovery.Bytes

namespace GrpcDiscovery.Utf8

/-!
# UTF-8 with exact faults

A byte sequence is read one scalar value at a time. When it is not UTF-8, the
reader says how many bytes before the fault are well formed and how long the
ill-formed part is: the longest run of bytes that could still have begun a
scalar value, and at least one byte. When the input ends inside a sequence that
was well formed so far, there is no such length.

`decode` refuses ill-formed input with that fault. `decodeLossy` puts one
replacement character in the place of each ill-formed part.
-/

/-- Where and how a byte sequence stops being UTF-8. -/
structure Fault where
  /-- The number of well-formed bytes before the fault. -/
  validUpTo : Nat
  /-- The length of the ill-formed part, absent when the input ended too early. -/
  length : Option Nat
deriving DecidableEq, Repr

/-- The wording of a fault. -/
def Fault.message (fault : Fault) : String :=
  match fault.length with
  | some length =>
      s!"invalid utf-8 sequence of {length} bytes from index " ++
        toString fault.validUpTo
  | none =>
      "incomplete utf-8 byte sequence from index " ++
        toString fault.validUpTo

/-- The result of reading one scalar value. -/
inductive Scan where
  /-- A scalar value and the bytes after it. -/
  | scalar (value : Char) (rest : Bytes)
  /-- An ill-formed part of that many bytes. -/
  | illFormed (length : Nat)
  /-- The input ended inside a sequence. -/
  | incomplete

/--
The shape that a leading byte announces: the number of bytes to follow, the
payload bits of the leading byte, and the bounds of the next byte.

The bounds exclude overlong forms, surrogates and values past U+10FFFF.
-/
def leadingShape? (lead : UInt8) : Option (Nat × Nat × UInt8 × UInt8) :=
  if 0xC2 ≤ lead ∧ lead ≤ 0xDF then
    some (1, lead.toNat % 32, 0x80, 0xBF)
  else if lead = 0xE0 then
    some (2, lead.toNat % 16, 0xA0, 0xBF)
  else if lead = 0xED then
    some (2, lead.toNat % 16, 0x80, 0x9F)
  else if 0xE1 ≤ lead ∧ lead ≤ 0xEF then
    some (2, lead.toNat % 16, 0x80, 0xBF)
  else if lead = 0xF0 then
    some (3, lead.toNat % 8, 0x90, 0xBF)
  else if 0xF1 ≤ lead ∧ lead ≤ 0xF3 then
    some (3, lead.toNat % 8, 0x80, 0xBF)
  else if lead = 0xF4 then
    some (3, lead.toNat % 8, 0x80, 0x8F)
  else
    none

/--
Read the bytes that follow a leading byte.

`seen` counts the bytes accepted so far; only the first of the remaining bytes
has bounds other than those of every continuation byte.
-/
def scanContinuation
    (seen value : Nat)
    (low high : UInt8) :
    Nat →
    Bytes →
    Scan
  | 0, rest =>
      .scalar (Char.ofNat value) rest
  | _ + 1, [] =>
      .incomplete
  | remaining + 1, byte :: rest =>
      if low ≤ byte ∧ byte ≤ high then
        scanContinuation
          (seen + 1)
          (64 * value + byte.toNat % 64)
          0x80
          0xBF
          remaining
          rest
      else
        .illFormed seen

/-- Read the scalar value that a leading byte begins. -/
def scanScalar
    (lead : UInt8)
    (rest : Bytes) :
    Scan :=
  if lead < 0x80 then
    .scalar (Char.ofNat lead.toNat) rest
  else
    match leadingShape? lead with
    | none =>
        .illFormed 1
    | some (count, payload, low, high) =>
        scanContinuation 1 payload low high count rest

/-- Continuation bytes are only consumed. -/
theorem scanContinuation_length_le
    {seen value count : Nat}
    {low high : UInt8}
    {bytes rest : Bytes}
    {scalar : Char}
    (scanned :
      scanContinuation seen value low high count bytes =
        .scalar scalar rest) :
    rest.length ≤ bytes.length := by
  induction count generalizing seen value low high bytes with
  | zero =>
      simp only [scanContinuation, Scan.scalar.injEq] at scanned
      simp [scanned.2]
  | succ count inductionHypothesis =>
      cases bytes with
      | nil =>
          simp [scanContinuation] at scanned
      | cons byte bytes =>
          simp only [scanContinuation] at scanned
          split at scanned
          · have := inductionHypothesis scanned
            simp only [List.length_cons]
            omega
          · simp at scanned

/-- A scalar value takes no bytes from before its leading byte. -/
theorem scanScalar_length_le
    {lead : UInt8}
    {bytes rest : Bytes}
    {scalar : Char}
    (scanned :
      scanScalar lead bytes = .scalar scalar rest) :
    rest.length ≤ bytes.length := by
  unfold scanScalar at scanned
  split at scanned
  · simp only [Scan.scalar.injEq] at scanned
    simp [scanned.2]
  · split at scanned
    · simp at scanned
    · exact scanContinuation_length_le scanned

/-- Read scalar values to the end, `validUpTo` being the well-formed bytes before. -/
def decodeFrom
    (validUpTo : Nat)
    (bytes : Bytes) :
    Except Fault (List Char) :=
  match bytes with
  | [] =>
      .ok []
  | lead :: bytes =>
      match scanned : scanScalar lead bytes with
      | .scalar value rest =>
          have : rest.length < bytes.length + 1 :=
            Nat.lt_succ_of_le (scanScalar_length_le scanned)
          match decodeFrom (validUpTo + value.utf8Size) rest with
          | .ok values =>
              .ok (value :: values)
          | .error fault =>
              .error fault
      | .illFormed length =>
          .error ⟨validUpTo, some length⟩
      | .incomplete =>
          .error ⟨validUpTo, none⟩
termination_by bytes.length

/-- Read a text, or say where the bytes stop being UTF-8. -/
def decode (bytes : Bytes) : Except Fault String :=
  (decodeFrom 0 bytes).map String.ofList

/-- Read scalar values, one replacement character for each ill-formed part. -/
def decodeLossyChars (bytes : Bytes) : List Char :=
  match bytes with
  | [] =>
      []
  | lead :: bytes =>
      match scanned : scanScalar lead bytes with
      | .scalar value rest =>
          have : rest.length < bytes.length + 1 :=
            Nat.lt_succ_of_le (scanScalar_length_le scanned)
          value :: decodeLossyChars rest
      | .illFormed length =>
          Char.ofNat 0xFFFD ::
            decodeLossyChars (bytes.drop (length - 1))
      | .incomplete =>
          [Char.ofNat 0xFFFD]
termination_by bytes.length
decreasing_by
  · simp only [List.length_cons]
    omega
  · simp only [List.length_cons, List.length_drop]
    omega

/-- Read a text whatever the bytes. -/
def decodeLossy (bytes : Bytes) : String :=
  String.ofList (decodeLossyChars bytes)

/-- The bytes of a text. -/
def encode (text : String) : Bytes :=
  text.toUTF8.data.toList

end GrpcDiscovery.Utf8
