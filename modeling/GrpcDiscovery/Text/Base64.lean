import GrpcDiscovery.Bytes

namespace GrpcDiscovery.Base64

/-!
# Base64

Four digits of six bits each stand for three bytes. Two or three digits at the
end stand for one or two bytes; the bits left over are nought. Where padding is
used, equals signs make up for the missing digits, and then it is required.

There are two alphabets, which differ in the digits 62 and 63. A text is read
with either alphabet, padded or not, but not with a mixture.
-/

/-- The digits 62 and 63 of an alphabet. -/
structure Alphabet where
  digit62 : Char
  digit63 : Char
deriving DecidableEq, Repr

/-- The alphabet with plus and slash. -/
def Alphabet.standard : Alphabet := ⟨'+', '/'⟩

/-- The alphabet with hyphen and underscore. -/
def Alphabet.urlSafe : Alphabet := ⟨'-', '_'⟩

/-- The value of a digit. -/
def Alphabet.value?
    (alphabet : Alphabet)
    (char : Char) :
    Option Nat :=
  if 'A' ≤ char ∧ char ≤ 'Z' then
    some (char.toNat - 'A'.toNat)
  else if 'a' ≤ char ∧ char ≤ 'z' then
    some (char.toNat - 'a'.toNat + 26)
  else if '0' ≤ char ∧ char ≤ '9' then
    some (char.toNat - '0'.toNat + 52)
  else if char = alphabet.digit62 then
    some 62
  else if char = alphabet.digit63 then
    some 63
  else
    none

/-- The byte of two digits, whose last four bits are nought. -/
def oneByte?
    (alphabet : Alphabet)
    (a b : Char) :
    Option Bytes := do
  let bits := (← alphabet.value? a) * 64 + (← alphabet.value? b)
  if bits % 16 = 0 then
    return [UInt8.ofNat (bits / 16)]
  else
    none

/-- The bytes of three digits, whose last two bits are nought. -/
def twoBytes?
    (alphabet : Alphabet)
    (a b c : Char) :
    Option Bytes := do
  let bits :=
    ((← alphabet.value? a) * 64 + (← alphabet.value? b)) * 64 + (← alphabet.value? c)
  if bits % 4 = 0 then
    return [UInt8.ofNat (bits / 1024), UInt8.ofNat (bits / 4)]
  else
    none

/-- The bytes of four digits. -/
def threeBytes?
    (alphabet : Alphabet)
    (a b c d : Char) :
    Option Bytes := do
  let bits :=
    (((← alphabet.value? a) * 64 + (← alphabet.value? b)) * 64 +
      (← alphabet.value? c)) * 64 + (← alphabet.value? d)
  return [UInt8.ofNat (bits / 65536), UInt8.ofNat (bits / 256), UInt8.ofNat bits]

/-- Read a text of one alphabet, which is padded or is not. -/
def decodeAs?
    (alphabet : Alphabet)
    (padded : Bool) :
    List Char →
    Option Bytes
  | [] =>
      some []
  | [a, b] =>
      if padded then none else oneByte? alphabet a b
  | [a, b, c] =>
      if padded then none else twoBytes? alphabet a b c
  | [a, b, '=', '='] =>
      if padded then oneByte? alphabet a b else none
  | [a, b, c, '='] =>
      if padded then twoBytes? alphabet a b c else none
  | a :: b :: c :: d :: rest => do
      let bytes ← threeBytes? alphabet a b c d
      let others ← decodeAs? alphabet padded rest
      return bytes ++ others
  | _ =>
      none

/-- Read a text of either alphabet, padded or not. -/
def decode? (text : String) : Option Bytes :=
  let chars := text.toList
  decodeAs? .standard true chars <|>
    decodeAs? .standard false chars <|>
    decodeAs? .urlSafe true chars <|>
    decodeAs? .urlSafe false chars

end GrpcDiscovery.Base64
