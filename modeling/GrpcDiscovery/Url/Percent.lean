import GrpcDiscovery.Text.Utf8

namespace GrpcDiscovery.Percent

/-!
# Percent encoding

A byte is written as a percent sign and two upper-case hexadecimal digits. Which
characters of a part of a URL are written so is said by the part's set; those
outside ASCII always are, byte by byte of their UTF-8 form.
-/

/-- A set of ASCII characters to be encoded. -/
abbrev EncodeSet := Char → Bool

/-- The control characters. -/
def controls : EncodeSet := fun char =>
  char.toNat < 0x20 || char.toNat == 0x7F

/-- What a set has besides the characters of another one. -/
def also
    (set : EncodeSet)
    (others : List Char) :
    EncodeSet := fun char =>
  set char || others.contains char

/-- What is encoded in a fragment. -/
def fragmentSet : EncodeSet :=
  also controls [' ', '"', '<', '>', '\x60']

/-- What is encoded in a query. -/
def querySet : EncodeSet :=
  also controls [' ', '"', '#', '<', '>']

/-- What is encoded in a query under one of the special schemes. -/
def specialQuerySet : EncodeSet :=
  also querySet ['\x27']

/-- What is encoded in a path. -/
def pathSet : EncodeSet :=
  also fragmentSet ['#', '?', '\x7b', '\x7d']

/-- What is encoded in a user name or a password. -/
def userinfoSet : EncodeSet :=
  also pathSet ['/', ':', ';', '=', '@', '[', '\\', ']', '^', '|']

/-- The three characters that stand for a byte. -/
def byteTriplet (byte : UInt8) : List Char :=
  ['%', (Hex.digit (byte.toNat / 16)).toUpper, (Hex.digit (byte.toNat % 16)).toUpper]

/-- A character, encoded if it is in a set or outside ASCII. -/
def encodeChar
    (set : EncodeSet)
    (char : Char) :
    List Char :=
  if char.toNat < 0x80 ∧ ¬ set char then
    [char]
  else
    (Utf8.encode char.toString).flatMap byteTriplet

/-- A text, encoded character by character. -/
def encode
    (set : EncodeSet)
    (chars : List Char) :
    String :=
  String.ofList (chars.flatMap (encodeChar set))

/-- The byte that three bytes stand for, if they are a percent sign and two digits. -/
def tripletByte?
    (sign high low : UInt8) :
    Option UInt8 := do
  let highValue ← Hex.value? (Char.ofNat high.toNat)
  let lowValue ← Hex.value? (Char.ofNat low.toNat)
  if sign = 0x25 then
    return UInt8.ofNat (16 * highValue + lowValue)
  else
    none

/-- Replace each triplet by its byte; a percent sign without two digits stays. -/
def decodeBytes : Bytes → Bytes
  | first :: high :: low :: rest =>
      match tripletByte? first high low with
      | some byte =>
          byte :: decodeBytes rest
      | none =>
          first :: decodeBytes (high :: low :: rest)
  | short =>
      short

/-- The bytes that a text stands for. -/
def decode (text : String) : Bytes :=
  decodeBytes (Utf8.encode text)

end GrpcDiscovery.Percent
