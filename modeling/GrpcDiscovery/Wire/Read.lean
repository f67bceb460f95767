import GrpcDiscovery.Wire.Basic

namespace GrpcDiscovery.Wire

/-!
# Reading values

The values of the wire format are variable-length integers, little-endian
numbers of fixed width, and length-delimited bytes and texts.

A variable-length integer has seven bits in each byte, the lowest first, and
the top bit of a byte says that another follows. Ten bytes hold seventy bits,
of which the result keeps the low sixty-four.
-/

/-- Read a variable-length integer of at most `width` bytes. -/
def readVarintWithin
    (width : Nat)
    (bytes : Bytes) :
    EStateM.Result WireError Bytes UInt64 :=
  match width, bytes with
  | 0, rest =>
      .error .malformedVarint rest
  | _ + 1, [] =>
      .error .malformedVarint []
  | width + 1, byte :: rest =>
      if byte < 0x80 then
        .ok byte.toUInt64 rest
      else
        match readVarintWithin width rest with
        | .ok high rest =>
            .ok ((byte &&& 0x7F).toUInt64 + 128 * high) rest
        | .error cause rest =>
            .error cause rest

/-- Read a variable-length integer. -/
def readVarint : Reader UInt64 :=
  readVarintWithin maxVarintBytes

/--
Read a tag: three bits of wire type below the field number.

The field number keeps thirty-two bits of what the integer holds.
-/
def readTag : Reader Tag := do
  let key ← readVarint
  let code := (key &&& 7).toNat
  match WireType.ofCode? code with
  | some wireType =>
      return ⟨(key >>> 3).toUInt32, wireType⟩
  | none =>
      throw (.invalidWireType code)

/-- Take a number of bytes, or nothing when fewer are left. -/
def readBytes
    (count : Nat)
    (bytes : Bytes) :
    EStateM.Result WireError Bytes Bytes :=
  if count ≤ bytes.length then
    .ok (bytes.take count) (bytes.drop count)
  else
    .error (.truncatedMessage count bytes.length) bytes

/-- Read a length and that many bytes. -/
def readLengthDelimited : Reader Bytes := do
  let length ← readVarint
  readBytes length.toNat

/-- The text of length-delimited bytes. -/
def textOf (bytes : Bytes) : Except WireError String :=
  match Utf8.decode bytes with
  | .ok text =>
      .ok text
  | .error fault =>
      .error (.invalidUtf8 fault)

/-- Read a length-delimited text; bytes that are not a text are consumed all the same. -/
def readString : Reader String := do
  let bytes ← readLengthDelimited
  match textOf bytes with
  | .ok text =>
      return text
  | .error cause =>
      throw cause

/-- A variable-length integer as a truth value. -/
def boolOf (value : UInt64) : Bool :=
  value != 0

/-- A variable-length integer as a signed number of thirty-two bits. -/
def int32Of (value : UInt64) : Int32 :=
  value.toUInt32.toInt32

/-- Read a truth value. -/
def readBool : Reader Bool := do
  let value ← readVarint
  return boolOf value

/-- Read a signed number of thirty-two bits; negative ones are sign-extended on the wire. -/
def readInt32 : Reader Int32 := do
  let value ← readVarint
  return int32Of value

/-- The number of little-endian bytes. -/
def littleEndian : Bytes → Nat
  | [] =>
      0
  | byte :: rest =>
      byte.toNat + 256 * littleEndian rest

/-- Read a number of sixty-four bits. -/
def readFixed64 : Reader UInt64 := do
  let bytes ← readBytes 8
  return UInt64.ofNat (littleEndian bytes)

/-- Read a number of thirty-two bits. -/
def readFixed32 : Reader UInt32 := do
  let bytes ← readBytes 4
  return UInt32.ofNat (littleEndian bytes)

/-- A variable-length integer consumes at least one byte. -/
theorem readVarintWithin_shorter
    {width : Nat}
    {bytes rest : Bytes}
    {value : UInt64}
    (read :
      readVarintWithin width bytes = .ok value rest) :
    rest.length < bytes.length := by
  induction width generalizing bytes rest value with
  | zero =>
      simp [readVarintWithin] at read
  | succ width inductionHypothesis =>
      cases bytes with
      | nil =>
          simp [readVarintWithin] at read
      | cons byte bytes =>
          simp only [readVarintWithin] at read
          split at read
          · simp only [EStateM.Result.ok.injEq] at read
            simp [read.2]
          · split at read
            · rename_i high tail tailRead
              simp only [EStateM.Result.ok.injEq] at read
              have := inductionHypothesis tailRead
              simp only [List.length_cons, ← read.2]
              omega
            · simp at read

/-- A tag consumes at least one byte. -/
theorem readTag_shorter
    {bytes rest : Bytes}
    {tag : Tag}
    (read : readTag bytes = .ok tag rest) :
    rest.length < bytes.length := by
  simp only [readTag, bind, EStateM.bind] at read
  cases keyRead : readVarint bytes with
  | error cause tail =>
      simp [keyRead] at read
  | ok key tail =>
      have shorter := readVarintWithin_shorter keyRead
      simp only [keyRead] at read
      cases known : WireType.ofCode? (key &&& 7).toNat with
      | none =>
          simp only [known] at read
          cases read
      | some wireType =>
          simp only [known, pure, EStateM.pure, EStateM.Result.ok.injEq] at read
          exact read.2 ▸ shorter

/-- Taking bytes leaves no more than there were. -/
theorem readBytes_length_le
    {count : Nat}
    {bytes taken rest : Bytes}
    (read : readBytes count bytes = .ok taken rest) :
    rest.length ≤ bytes.length := by
  simp only [readBytes] at read
  split at read
  · simp only [EStateM.Result.ok.injEq] at read
    simp only [← read.2, List.length_drop]
    omega
  · simp at read

end GrpcDiscovery.Wire
