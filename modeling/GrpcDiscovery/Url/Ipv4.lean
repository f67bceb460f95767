import GrpcDiscovery.Text.Hex
import GrpcDiscovery.Text.Split

namespace GrpcDiscovery.Ipv4

/-!
# Internet addresses of four bytes

A host is such an address when its last label is a number. Up to four numbers
may be given, decimal, octal after a nought, or hexadecimal after `0x`. Each but
the last is a byte; the last one fills the bytes that are left.
-/

/-- The number that digits below a radix write; no digits write nought. -/
def radixNumber?
    (radix : Nat)
    (digits : List Char) :
    Option Nat :=
  digits.foldlM
    (fun number char => do
      let digit ← Hex.value? char
      if digit < radix then
        return number * radix + digit
      else
        none)
    0

/-- The number of a label, in the radix that its beginning shows. -/
def number? : List Char → Option Nat
  | [] =>
      none
  | '0' :: 'x' :: digits =>
      radixNumber? 16 digits
  | '0' :: 'X' :: digits =>
      radixNumber? 16 digits
  | '0' :: digits =>
      radixNumber? 8 digits
  | digits =>
      radixNumber? 10 digits

/-- The labels without the empty one that a trailing dot leaves. -/
def significantLabels (labels : List (List Char)) : List (List Char) :=
  if labels.getLast? = some [] then
    labels.dropLast
  else
    labels

/-- Whether the last label is a number, be it one that no address has. -/
def endsInNumber (labels : List (List Char)) : Bool :=
  match (significantLabels labels).getLast? with
  | none =>
      false
  | some label =>
      (!label.isEmpty && label.all Char.isDigit) || (number? label).isSome

/-- The address of its numbers: bytes, and last what fills the rest of four bytes. -/
def ofNumbers? : (width : Nat) → List Nat → Option Nat
  | _, [] =>
      none
  | 0, _ =>
      none
  | width + 1, [last] =>
      if last < Nat.pow 256 (width + 1) then some last else none
  | width + 1, byte :: rest => do
      let lower ← ofNumbers? width rest
      if byte < 256 then
        return byte * Nat.pow 256 width + lower
      else
        none

/-- The address that labels give. -/
def ofLabels? (labels : List (List Char)) : Option Nat := do
  let numbers ← (significantLabels labels).mapM number?
  ofNumbers? 4 numbers

/-- The four bytes of an address in decimal, with dots between them. -/
def text (address : Nat) : String :=
  String.intercalate "."
    ([3, 2, 1, 0].map fun place =>
      toString (address / Nat.pow 256 place % 256))

end GrpcDiscovery.Ipv4
