namespace GrpcDiscovery.Hex

/-!
# Hexadecimal digits

Digits are written in lower case and read in either case.
-/

/-- The lower-case digit of a value below sixteen. -/
def digit (value : Nat) : Char :=
  if value < 10 then
    Char.ofNat ('0'.toNat + value)
  else
    Char.ofNat ('a'.toNat + (value - 10))

/-- The value of a digit. -/
def value? (char : Char) : Option Nat :=
  if '0' ≤ char ∧ char ≤ '9' then
    some (char.toNat - '0'.toNat)
  else if 'a' ≤ char ∧ char ≤ 'f' then
    some (char.toNat - 'a'.toNat + 10)
  else if 'A' ≤ char ∧ char ≤ 'F' then
    some (char.toNat - 'A'.toNat + 10)
  else
    none

/-- The value of a run of digits, the first the most significant. -/
def number? (chars : List Char) : Option Nat :=
  chars.foldlM
    (fun number char => do
      let digit ← value? char
      return number * 16 + digit)
    0

end GrpcDiscovery.Hex
