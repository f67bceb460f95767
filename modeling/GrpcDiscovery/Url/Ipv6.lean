import GrpcDiscovery.Url.Ipv4

namespace GrpcDiscovery.Ipv6

/-!
# Internet addresses of eight pieces

A piece has one to four hexadecimal digits, and colons stand between pieces. The
last two may be given as an address of four decimal bytes. Two colons together,
at most once, stand for one or more pieces of nought.

An address is written with its longest run of two or more pieces of nought, the
first of equals, left out.
-/

/-- The piece that a group of digits writes. -/
def piece? (digits : List Char) : Option Nat :=
  if digits.isEmpty ∨ 4 < digits.length then
    none
  else
    Hex.number? digits

/-- A byte in decimal without superfluous noughts. -/
def decimalByte? (digits : List Char) : Option Nat :=
  if digits.isEmpty ∨ (digits.head? = some '0' ∧ digits ≠ ['0']) ∨ 3 < digits.length then
    none
  else do
    let value ← Ipv4.radixNumber? 10 digits
    if value < 256 then
      return value
    else
      none

/-- The two pieces of an address of four decimal bytes. -/
def dottedPieces? (chars : List Char) : Option (List Nat) := do
  let bytes ← (Split.on (· == '.') chars).mapM decimalByte?
  match bytes with
  | [a, b, c, d] =>
      return [a * 256 + b, c * 256 + d]
  | _ =>
      none

/-- The pieces that groups give, the last of which may be four decimal bytes. -/
def pieces? : List (List Char) → Option (List Nat)
  | [] =>
      some []
  | [last] =>
      match piece? last with
      | some piece =>
          some [piece]
      | none =>
          dottedPieces? last
  | group :: rest => do
      let piece ← piece? group
      let others ← pieces? rest
      return piece :: others

/-- The texts before and after the first two colons together, if there are any. -/
def atCompression? : List Char → Option (List Char × List Char)
  | ':' :: ':' :: rest =>
      some ([], rest)
  | [] =>
      none
  | char :: rest =>
      (atCompression? rest).map fun (before, after) =>
        (char :: before, after)

/-- The groups of one side of a compression, which may have none. -/
def sideGroups (chars : List Char) : List (List Char) :=
  if chars.isEmpty then [] else Split.on (· == ':') chars

/-- The eight pieces that a text gives. -/
def ofChars? (chars : List Char) : Option (List Nat) :=
  match atCompression? chars with
  | none => do
      let pieces ← pieces? (Split.on (· == ':') chars)
      if pieces.length = 8 then
        return pieces
      else
        none
  | some (before, after) => do
      let left ← (sideGroups before).mapM piece?
      let right ← pieces? (sideGroups after)
      if left.length + right.length < 8 then
        return left ++ List.replicate (8 - left.length - right.length) 0 ++ right
      else
        none

/-- How many noughts a list begins with. -/
def leadingZeros (pieces : List Nat) : Nat :=
  (pieces.takeWhile (· == 0)).length

/-- The longest run of noughts, the first of equals: where it begins and its length. -/
def longestZeros : List Nat → Nat × Nat
  | [] =>
      (0, 0)
  | piece :: rest =>
      let here := leadingZeros (piece :: rest)
      let (start, length) := longestZeros rest
      if here < length then
        (start + 1, length)
      else
        (0, here)

/-- A piece without leading noughts. -/
def pieceText (piece : Nat) : String :=
  String.ofList (Nat.toDigits 16 piece)

/-- The pieces with colons between them. -/
def joined (pieces : List Nat) : String :=
  String.intercalate ":" (pieces.map pieceText)

/-- The shortest text of an address. -/
def text (pieces : List Nat) : String :=
  let (start, length) := longestZeros pieces
  if length < 2 then
    joined pieces
  else
    joined (pieces.take start) ++ "::" ++ joined (pieces.drop (start + length))

end GrpcDiscovery.Ipv6
