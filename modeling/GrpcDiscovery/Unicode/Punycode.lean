namespace GrpcDiscovery.Punycode

/-!
# Punycode

A label is written in ASCII as the ASCII characters in it, followed, after a
hyphen if there are any, by where the other characters go. They are inserted in
order of their code points, and each insertion is a number: how many places and
code points are passed since the one before. A number is written with digits of a
varying base, which adapts to the numbers that came before.
-/

/-- The number of digits. -/
def base : Nat := 36

/-- The first code point that can be inserted. -/
def initialCode : Nat := 0x80

/-- The threshold of a digit, below which it is the last one of its number. -/
def threshold (bias position : Nat) : Nat :=
  let place := base * (position + 1)
  if place ≤ bias + 1 then 1 else if bias + 26 ≤ place then 26 else place - bias

/-- Divide until little is left, counting the divisions. -/
def scaleDown (delta divisions : Nat) : Nat × Nat :=
  if 455 < delta then
    scaleDown (delta / 35) (divisions + 1)
  else
    (delta, divisions)
termination_by delta
decreasing_by omega

/-- The bias after a number, `count` characters being there. -/
def adapt (delta count : Nat) (isFirst : Bool) : Nat :=
  let delta := if isFirst then delta / 700 else delta / 2
  let (rest, divisions) := scaleDown (delta + delta / count) 0
  base * divisions + 36 * rest / (rest + 38)

/-- The value of a digit. -/
def digitValue? (char : Char) : Option Nat :=
  if 'a' ≤ char ∧ char ≤ 'z' then
    some (char.toNat - 'a'.toNat)
  else if 'A' ≤ char ∧ char ≤ 'Z' then
    some (char.toNat - 'A'.toNat)
  else if '0' ≤ char ∧ char ≤ '9' then
    some (char.toNat - '0'.toNat + 26)
  else
    none

/-- The digit of a value. -/
def digit (value : Nat) : Char :=
  if value < 26 then
    Char.ofNat ('a'.toNat + value)
  else
    Char.ofNat ('0'.toNat + (value - 26))

/-- What has been read: the code points so far, and where the next one goes. -/
structure Reading where
  codePoints : List Nat
  code : Nat := initialCode
  place : Nat := 0
  bias : Nat := 72
  /-- What was there before the number that is being read. -/
  start : Nat := 0
  weight : Nat := 1
  position : Nat := 0

/-- Insert a code point at a place. -/
def insertAt (place code : Nat) (codePoints : List Nat) : List Nat :=
  codePoints.take place ++ code :: codePoints.drop place

/-- Take one digit. -/
def Reading.step
    (reading : Reading)
    (char : Char) :
    Option Reading := do
  let value ← digitValue? char
  let place := reading.place + value * reading.weight
  let limit := threshold reading.bias reading.position
  if limit ≤ value then
    return {
      reading with
      place := place
      weight := reading.weight * (base - limit)
      position := reading.position + 1
    }
  else
    let count := reading.codePoints.length + 1
    let code := reading.code + place / count
    let index := place % count
    if code.isValidChar then
      return {
        codePoints := insertAt index code reading.codePoints
        code := code
        place := index + 1
        bias := adapt (place - reading.start) count (reading.start == 0)
        start := index + 1
        weight := 1
        position := 0
      }
    else
      none

/-- The ASCII characters of a text and its digits. -/
def splitBasic (chars : List Char) : List Char × List Char :=
  let digits := (chars.reverse.takeWhile (· != '-')).reverse
  (chars.take (chars.length - digits.length - 1), digits)

/-- Read a text. -/
def decode? (chars : List Char) : Option (List Nat) := do
  let (basic, digits) := splitBasic chars
  let reading ← digits.foldlM Reading.step { codePoints := basic.map Char.toNat }
  if reading.position = 0 then
    return reading.codePoints
  else
    none

/-- The digits of a number, the first of them being below a limit if it is the only one. -/
def digitsFrom
    (limits : Nat → Nat)
    (position number : Nat) :
    List Char :=
  if number < limits position ∨ limits position = 0 ∨ base ≤ limits position then
    [digit number]
  else
    digit (limits position + (number - limits position) % (base - limits position)) ::
      digitsFrom limits (position + 1)
        ((number - limits position) / (base - limits position))
termination_by number
decreasing_by
  have := Nat.div_le_self (number - limits position) (base - limits position)
  omega

/-- The digits of a number. -/
def digits (bias number : Nat) : List Char :=
  digitsFrom (threshold bias) 0 number

/-- What has been written: the text, and how far the insertions went. -/
structure Writing where
  text : List Char
  /-- The number of characters that are there. -/
  count : Nat
  delta : Nat := 0
  bias : Nat := 72
  isFirst : Bool := true

/-- Pass one place, or insert the code point that goes there. -/
def Writing.step
    (code : Nat)
    (writing : Writing)
    (codePoint : Nat) :
    Writing :=
  if codePoint < code then
    { writing with delta := writing.delta + 1 }
  else if codePoint = code then
    {
      text := writing.text ++ digits writing.bias writing.delta
      count := writing.count + 1
      delta := 0
      bias := adapt writing.delta (writing.count + 1) writing.isFirst
      isFirst := false
    }
  else
    writing

/-- Write the insertions of codes in order, `next` being the first that is not behind. -/
def writeCodes
    (codePoints : List Nat)
    (next : Nat)
    (writing : Writing) :
    List Nat →
    List Char
  | [] =>
      writing.text
  | code :: rest =>
      let passed :=
        { writing with delta := writing.delta + (code - next) * (writing.count + 1) }
      let written := codePoints.foldl (Writing.step code) passed
      writeCodes codePoints (code + 1) { written with delta := written.delta + 1 } rest

/-- The text of code points. -/
def encode (codePoints : List Nat) : List Char :=
  let basic := codePoints.filter (· < initialCode)
  let codes := ((codePoints.filter (initialCode ≤ ·)).mergeSort).eraseDups
  let start := basic.map Char.ofNat ++ (if basic.isEmpty then [] else ['-'])
  writeCodes codePoints initialCode { text := start, count := basic.length } codes

end GrpcDiscovery.Punycode
