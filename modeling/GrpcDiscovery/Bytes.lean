import GrpcDiscovery.Text.Hex

namespace GrpcDiscovery

/-!
# Byte sequences

Messages, response bodies and descriptor files are finite sequences of octets.
They are held as lists, so that a reader is a function from the bytes still to
be read to a result and the bytes left over.

The hexadecimal notation writes two lower-case digits per byte.
-/

/-- A finite sequence of octets. -/
abbrev Bytes := List UInt8

namespace Bytes

/-- Two hexadecimal digits per byte, in order. -/
def toHex (bytes : Bytes) : String :=
  String.ofList
    (bytes.flatMap fun byte =>
      [Hex.digit (byte.toNat / 16), Hex.digit (byte.toNat % 16)])

/-- Read pairs of hexadecimal digits; an odd digit or a foreign character is refused. -/
def ofHexDigits? : List Char → Option Bytes
  | [] =>
      some []
  | [_] =>
      none
  | high :: low :: rest => do
      let highValue ← Hex.value? high
      let lowValue ← Hex.value? low
      let bytes ← ofHexDigits? rest
      return UInt8.ofNat (16 * highValue + lowValue) :: bytes

/-- Read a text of hexadecimal digits. -/
def ofHex? (text : String) : Option Bytes :=
  ofHexDigits? text.toList

end Bytes

end GrpcDiscovery
