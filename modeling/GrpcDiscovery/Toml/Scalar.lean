import GrpcDiscovery.Json.Reader
import GrpcDiscovery.Text.Split
import GrpcDiscovery.Toml.Value

namespace GrpcDiscovery.Toml

/-!
# Words: numbers, dates and truth values

Integers have sixty-four bits. They are decimal with an optional sign, or
hexadecimal, octal or binary without one; single underscores may stand between
digits. A floating-point number must not exceed its range. Dates must be in the
calendar. Seconds may be missing from a time of day.
-/

/-- The digits of a run in which single underscores may stand between digits. -/
def groupedDigits? (isDigit : Char → Bool) : List Char → Option (List Char)
  | [] =>
      none
  | [char] =>
      if isDigit char then some [char] else none
  | char :: '_' :: rest =>
      if isDigit char then
        (groupedDigits? isDigit rest).map (char :: ·)
      else
        none
  | char :: rest =>
      if isDigit char then
        (groupedDigits? isDigit rest).map (char :: ·)
      else
        none

/-- Split off a sign: whether it is a minus, and the rest. -/
def splitSign : List Char → Bool × List Char
  | '-' :: rest =>
      (true, rest)
  | '+' :: rest =>
      (false, rest)
  | chars =>
      (false, chars)

/-- The digits of a decimal number, which has no superfluous noughts. -/
def decimalDigits? (chars : List Char) : Option (List Char) :=
  match groupedDigits? Char.isDigit chars with
  | some ('0' :: _ :: _) =>
      none
  | digits =>
      digits

/-- An integer, if it has sixty-four bits. -/
def integerOf? (value : Int) : Option Toml :=
  if -9223372036854775808 ≤ value ∧ value ≤ 9223372036854775807 then
    some (.integer value)
  else
    none

/-- The integer that digits of a radix write. -/
def radixInteger?
    (radix : Nat)
    (chars : List Char) :
    Option Toml := do
  let digits ←
    groupedDigits? (fun char => (Hex.value? char).any fun value => value < radix) chars
  let value :=
    digits.foldl (fun value char => value * radix + (Hex.value? char).getD 0) 0
  integerOf? value

/-- An integer. -/
def integerWord? : List Char → Option Toml
  | '0' :: 'x' :: digits =>
      radixInteger? 16 digits
  | '0' :: 'o' :: digits =>
      radixInteger? 8 digits
  | '0' :: 'b' :: digits =>
      radixInteger? 2 digits
  | chars => do
      let (negative, chars) := splitSign chars
      let digits ← decimalDigits? chars
      let magnitude : Int := Json.digitsValue digits
      integerOf? (if negative then -magnitude else magnitude)

/-- The parts of a number before and after the letter of its exponent. -/
def splitExponent : List Char → List Char × Option (List Char)
  | [] =>
      ([], none)
  | char :: rest =>
      if char = 'e' ∨ char = 'E' then
        ([], some rest)
      else
        let (before, after) := splitExponent rest
        (char :: before, after)

/-- An exponent with its sign. -/
def exponent? (chars : List Char) : Option (Option Char × List Char) := do
  let (negative, digits) := splitSign chars
  let digits ← groupedDigits? Char.isDigit digits
  return (if negative then some '-' else none, digits)

/-- A floating-point number. -/
def floatWord? (chars : List Char) : Option Toml := do
  let (negative, magnitude) := splitSign chars
  if magnitude = ['i', 'n', 'f'] ∨ magnitude = ['n', 'a', 'n'] then
    return .float (String.ofList chars)
  let (mantissa, exponentChars) := splitExponent magnitude
  let parts := Split.on (· == '.') mantissa
  let exponent ← exponentChars.mapM exponent?
  let numeral : Json.Numeral ←
    match parts, exponent with
    | [whole], some _ => do
        let whole ← decimalDigits? whole
        pure ⟨negative, whole, none, exponent⟩
    | [whole, fraction], _ => do
        let whole ← decimalDigits? whole
        let fraction ← groupedDigits? Char.isDigit fraction
        pure ⟨negative, whole, some fraction, exponent⟩
    | _, _ =>
        none
  if numeral.isFinite then
    return .float numeral.text
  else
    none

/-- The number of exactly that many digits. -/
def fixedNumber?
    (count : Nat)
    (chars : List Char) :
    Option Nat :=
  if chars.length = count ∧ chars.all Char.isDigit then
    some (Json.digitsValue chars)
  else
    none

/-- The days of a month. -/
def daysInMonth (year month : Nat) : Nat :=
  if month = 2 then
    if year % 4 = 0 ∧ (year % 100 ≠ 0 ∨ year % 400 = 0) then 29 else 28
  else if month ∈ [4, 6, 9, 11] then
    30
  else
    31

/-- Whether characters are a date of the calendar. -/
def isDate (chars : List Char) : Bool :=
  match Split.on (· == '-') chars with
  | [year, month, day] =>
      match fixedNumber? 4 year, fixedNumber? 2 month, fixedNumber? 2 day with
      | some year, some month, some day =>
          1 ≤ month && month ≤ 12 && 1 ≤ day && day ≤ daysInMonth year month
      | _, _, _ =>
          false
  | _ =>
      false

/-- Whether characters are a number of two digits up to a bound. -/
def isTwoDigits
    (bound : Nat)
    (chars : List Char) :
    Bool :=
  (fixedNumber? 2 chars).any fun value => value ≤ bound

/-- Whether characters are seconds, with a fraction or without. -/
def isSeconds (chars : List Char) : Bool :=
  match Split.on (· == '.') chars with
  | [seconds] =>
      isTwoDigits 60 seconds
  | [seconds, fraction] =>
      isTwoDigits 60 seconds && !fraction.isEmpty && fraction.all Char.isDigit
  | _ =>
      false

/-- Whether characters are a time of day. -/
def isTime (chars : List Char) : Bool :=
  match Split.on (· == ':') chars with
  | [hour, minute] =>
      isTwoDigits 23 hour && isTwoDigits 59 minute
  | [hour, minute, seconds] =>
      isTwoDigits 23 hour && isTwoDigits 59 minute && isSeconds seconds
  | _ =>
      false

/-- Whether characters are the distance to universal time. -/
def isOffset (chars : List Char) : Bool :=
  match Split.on (· == ':') chars with
  | [hour, minute] =>
      isTwoDigits 23 hour && isTwoDigits 59 minute
  | _ =>
      false

/-- Whether characters are a time of day and possibly its distance to universal time. -/
def isTimeWithOffset (chars : List Char) : Bool :=
  let (time, offset) :=
    chars.span fun char => !(['Z', 'z', '+', '-'].contains char)
  isTime time &&
    match offset with
    | [] =>
        true
    | ['Z'] =>
        true
    | ['z'] =>
        true
    | '+' :: offset =>
        isOffset offset
    | '-' :: offset =>
        isOffset offset
    | _ =>
        false

/-- Whether characters are a date, a time of day, or both. -/
def isDatetime (chars : List Char) : Bool :=
  isDate chars || isTime chars ||
    (isDate (chars.take 10) &&
      match chars.drop 10 with
      | 'T' :: time =>
          isTimeWithOffset time
      | 't' :: time =>
          isTimeWithOffset time
      | ' ' :: time =>
          isTimeWithOffset time
      | _ =>
          false)

/-- The value of a word. -/
def word? (chars : List Char) : Option Toml :=
  if chars = ['t', 'r', 'u', 'e'] then
    some (.boolean true)
  else if chars = ['f', 'a', 'l', 's', 'e'] then
    some (.boolean false)
  else if isDatetime chars then
    some (.datetime (String.ofList chars))
  else
    integerWord? chars <|> floatWord? chars

/-- Whether a character may stand in a word. -/
def isWordChar (char : Char) : Bool :=
  char.isAlphanum || ['+', '-', '.', '_', ':'].contains char

/-- Read a word; a date and the time after a blank are one. -/
def readWord (chars : List Char) : Option (Toml × List Char) := do
  let (first, rest) := chars.span isWordChar
  match rest with
  | ' ' :: char :: more =>
      if isDate first ∧ char.isDigit then
        let (second, rest) := (char :: more).span isWordChar
        let value ← word? (first ++ ' ' :: second)
        return (value, rest)
      else
        let value ← word? first
        return (value, rest)
  | _ =>
      let value ← word? first
      return (value, rest)

end GrpcDiscovery.Toml
