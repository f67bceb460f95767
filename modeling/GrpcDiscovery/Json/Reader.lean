import GrpcDiscovery.Json.Value
import GrpcDiscovery.Text.Hex

namespace GrpcDiscovery.Json

/-!
# Reading JSON text

The grammar is that of RFC 8259. A text is first read as it is written, by the
grammar alone: numerals and strings are kept as they were spelled, and every member
of an object is kept, repeated keys included. What they stand for is found out in a
second step, which may be taken for a part of the text only. It fails at a numeral
beyond the range of double-precision numbers and at an escaped surrogate without
its partner. A text as a whole stands for a value if that step works everywhere and
no more than 127 containers are open at once.

A reader takes the characters still to be read and gives a result with the
characters left over, or nothing when the text is not of its form.
-/

/-- A reader of characters. -/
abbrev Parse (α : Type) := List Char → Option (α × List Char)

/-- Whether a character is a blank, a tab or a line end. -/
def isBlank (char : Char) : Bool :=
  char == ' ' || char == '\t' || char == '\n' || char == '\r'

/-- Drop blanks, tabs and line ends. -/
def skipBlank (chars : List Char) : List Char :=
  chars.dropWhile isBlank

/-- The character that a backslash and a letter stand for. -/
def simpleEscape? : Char → Option Char
  | '"' =>
      some '"'
  | '\\' =>
      some '\\'
  | '/' =>
      some '/'
  | 'b' =>
      some (Char.ofNat 8)
  | 'f' =>
      some (Char.ofNat 12)
  | 'n' =>
      some '\n'
  | 'r' =>
      some '\r'
  | 't' =>
      some '\t'
  | _ =>
      none

/-- Split off the rest of a string, its opening quote being behind, as it is written. -/
def stringRest : Parse (List Char)
  | [] =>
      none
  | '"' :: rest =>
      some ([], rest)
  | '\\' :: 'u' :: a :: b :: c :: d :: rest => do
      let _ ← Hex.number? [a, b, c, d]
      let (chars, rest) ← stringRest rest
      return ('\\' :: 'u' :: a :: b :: c :: d :: chars, rest)
  | '\\' :: letter :: rest => do
      let _ ← simpleEscape? letter
      let (chars, rest) ← stringRest rest
      return ('\\' :: letter :: chars, rest)
  | char :: rest =>
      if char.toNat < 0x20 then
        none
      else do
        let (chars, rest) ← stringRest rest
        return (char :: chars, rest)

/-- Split off the leading decimal digits. -/
def digits (chars : List Char) : List Char × List Char :=
  chars.span Char.isDigit

/-- The parts of a numeral as they were written. -/
structure Numeral where
  negative : Bool
  whole : List Char
  fraction : Option (List Char)
  exponent : Option (Option Char × List Char)

/-- Read the part of a numeral before the point: one zero, or digits that begin otherwise. -/
def wholePart : Parse (List Char)
  | '0' :: rest =>
      some (['0'], rest)
  | chars =>
      match digits chars with
      | ([], _) =>
          none
      | (whole, rest) =>
          some (whole, rest)

/-- Read the digits after a point, if there is one. -/
def fractionPart : Parse (Option (List Char))
  | '.' :: rest =>
      match digits rest with
      | ([], _) =>
          none
      | (fraction, rest) =>
          some (some fraction, rest)
  | chars =>
      some (none, chars)

/-- Read the sign of an exponent, if there is one. -/
def exponentSign : List Char → Option Char × List Char
  | '+' :: rest =>
      (some '+', rest)
  | '-' :: rest =>
      (some '-', rest)
  | chars =>
      (none, chars)

/-- Read an exponent, if there is one. -/
def exponentPart : Parse (Option (Option Char × List Char))
  | [] =>
      some (none, [])
  | char :: rest =>
      if char = 'e' ∨ char = 'E' then
        let (sign, rest) := exponentSign rest
        match digits rest with
        | ([], _) =>
            none
        | (exponent, rest) =>
            some (some (sign, exponent), rest)
      else
        some (none, char :: rest)

/-- Read the sign of a negative numeral, if there is one. -/
def minusSign : List Char → Bool × List Char
  | '-' :: rest =>
      (true, rest)
  | chars =>
      (false, chars)

/-- Read a numeral. -/
def numeral (chars : List Char) : Option (Numeral × List Char) := do
  let (negative, rest) := minusSign chars
  let (whole, rest) ← wholePart rest
  let (fraction, rest) ← fractionPart rest
  let (exponent, rest) ← exponentPart rest
  return (⟨negative, whole, fraction, exponent⟩, rest)

/--
Read at least one element, further ones after a comma, and the closing bracket.

`fuel` bounds the number of elements; the number of characters is enough, since
each element but the first follows a comma.
-/
def elements
    {α : Type}
    (element : Parse α)
    (closing : Char) :
    (fuel : Nat) →
    Parse (List α)
  | 0, _ =>
      none
  | fuel + 1, chars => do
      let (first, rest) ← element chars
      match skipBlank rest with
      | ',' :: rest =>
          let (others, rest) ← elements element closing fuel rest
          return (first :: others, rest)
      | char :: rest =>
          if char = closing then
            return ([first], rest)
          else
            none
      | [] =>
          none

/-- Read the elements of a container after its opening bracket, possibly none. -/
def container
    {α : Type}
    (element : Parse α)
    (closing : Char)
    (chars : List Char) :
    Option (List α × List Char) :=
  match skipBlank chars with
  | [] =>
      none
  | char :: rest =>
      if char = closing then
        some ([], rest)
      else
        elements element closing chars.length chars

/-- A value as it is written, with what stands between the quotes of its strings. -/
inductive Written where
  | null
  | bool (value : Bool)
  | number (numeral : Numeral)
  | string (chars : List Char)
  | array (items : List Written)
  | object (members : List (List Char × Written))

/-- Read a member: a string, a colon and a value. -/
def member
    (value : Parse Written)
    (chars : List Char) :
    Option ((List Char × Written) × List Char) :=
  match skipBlank chars with
  | '"' :: rest => do
      let (key, rest) ← stringRest rest
      match skipBlank rest with
      | ':' :: rest =>
          let (content, rest) ← value rest
          return ((key, content), rest)
      | _ =>
          none
  | _ =>
      none

/-- Read a word or a numeral. -/
def scalar : Parse Written
  | 'n' :: 'u' :: 'l' :: 'l' :: rest =>
      some (.null, rest)
  | 't' :: 'r' :: 'u' :: 'e' :: rest =>
      some (.bool true, rest)
  | 'f' :: 'a' :: 'l' :: 's' :: 'e' :: rest =>
      some (.bool false, rest)
  | chars => do
      let (numeral, rest) ← numeral chars
      return (.number numeral, rest)

/-- Read a value in which at most `levels` containers are open at once. -/
def value :
    (levels : Nat) →
    Parse Written
  | levels, chars =>
      match levels, skipBlank chars with
      | levels + 1, '[' :: rest => do
          let (items, rest) ← container (value levels) ']' rest
          return (.array items, rest)
      | levels + 1, '{' :: rest => do
          let (members, rest) ← container (member (value levels)) '}' rest
          return (.object members, rest)
      | _, '"' :: rest => do
          let (chars, rest) ← stringRest rest
          return (.string chars, rest)
      | _, chars =>
          scalar chars

/--
Read a text that holds one value and blanks.

No more containers are open at once than there are characters.
-/
def Written.parse? (text : String) : Option Written := do
  let (written, rest) ← value text.length text.toList
  if (skipBlank rest).isEmpty then
    return written
  else
    none

/-! ## What is written -/

/-- The character for which a high and a low surrogate stand together. -/
def ofSurrogates (high low : Nat) : Char :=
  Char.ofNat (0x10000 + (high - 0xD800) * 0x400 + (low - 0xDC00))

/-- The characters for which those of a string stand. -/
def unescape? : List Char → Option (List Char)
  | [] =>
      some []
  | '\\' :: 'u' :: a :: b :: c :: d :: rest => do
      let unit ← Hex.number? [a, b, c, d]
      if 0xD800 ≤ unit ∧ unit ≤ 0xDBFF then
        match rest with
        | '\\' :: 'u' :: e :: f :: g :: h :: rest => do
            let low ← Hex.number? [e, f, g, h]
            if 0xDC00 ≤ low ∧ low ≤ 0xDFFF then
              let chars ← unescape? rest
              return ofSurrogates unit low :: chars
            else
              none
        | _ =>
            none
      else if 0xDC00 ≤ unit ∧ unit ≤ 0xDFFF then
        none
      else
        let chars ← unescape? rest
        return Char.ofNat unit :: chars
  | '\\' :: letter :: rest => do
      let char ← simpleEscape? letter
      let chars ← unescape? rest
      return char :: chars
  | ['\\'] =>
      none
  | char :: rest => do
      let chars ← unescape? rest
      return char :: chars

/-- The text for which a string stands. -/
def text? (chars : List Char) : Option String :=
  (unescape? chars).map String.ofList

/-- The number that decimal digits write. -/
def digitsValue (chars : List Char) : Nat :=
  chars.foldl (fun value char => value * 10 + (char.toNat - '0'.toNat)) 0

/-- The spelling of a numeral. -/
def Numeral.text (numeral : Numeral) : String :=
  String.ofList <|
    (if numeral.negative then ['-'] else []) ++
      numeral.whole ++
      (match numeral.fraction with
        | some fraction => '.' :: fraction
        | none => []) ++
      (match numeral.exponent with
        | some (sign, exponent) => 'e' :: sign.toList ++ exponent
        | none => [])

/-- The power of ten that the exponent names. -/
def Numeral.exponentValue (numeral : Numeral) : Int :=
  match numeral.exponent with
  | some (some '-', exponent) =>
      -(digitsValue exponent : Int)
  | some (_, exponent) =>
      digitsValue exponent
  | none =>
      0

/--
Whether a numeral rounds to a finite double-precision number.

The largest finite number is `2 ^ 1024 - 2 ^ 971`; what lies half a unit or more
above it rounds to infinity. Numerals with far more or far fewer than the 309
digits of that bound are settled by their length.
-/
def Numeral.isFinite (numeral : Numeral) : Bool :=
  let fraction := numeral.fraction.getD []
  let significand := digitsValue (numeral.whole ++ fraction)
  let power := numeral.exponentValue - fraction.length
  let length : Int := (Nat.toDigits 10 significand).length
  if significand = 0 ∨ length + power ≤ 308 then
    true
  else if length + power > 309 then
    false
  else
    let bound := Nat.pow 2 1024 - Nat.pow 2 970
    if 0 ≤ power then
      significand * Nat.pow 10 power.toNat < bound
    else
      significand < bound * Nat.pow 10 (-power).toNat

/-- The number of a numeral, unless it is out of range. -/
def Numeral.number? (numeral : Numeral) : Option JsonNumber :=
  let magnitude := digitsValue numeral.whole
  let integral := numeral.fraction.isNone && numeral.exponent.isNone
  if integral ∧ ¬ numeral.negative ∧ magnitude ≤ 18446744073709551615 then
    some (.integer magnitude)
  else if integral ∧ numeral.negative ∧ 0 < magnitude ∧ magnitude ≤ 9223372036854775808 then
    some (.integer (-(magnitude : Int)))
  else if numeral.isFinite then
    some (.decimal numeral.text)
  else
    none

/--
The value of what is written, in which at most `levels` containers are open at once.
-/
def Written.value? :
    (levels : Nat) →
    Written →
    Option Json
  | _, .null =>
      some .null
  | _, .bool value =>
      some (.bool value)
  | _, .number numeral =>
      numeral.number?.map .number
  | _, .string chars =>
      (text? chars).map .string
  | levels + 1, .array items => do
      let items ← items.mapM (value? levels)
      return .array items
  | levels + 1, .object members => do
      let members ← members.mapM fun (key, content) => do
        let key ← text? key
        let content ← value? levels content
        return (key, content)
      return .object members
  | 0, _ =>
      none

/-- How many containers may be open at once. -/
def nestingLimit : Nat := 127

/-- The value for which a text stands. -/
def parse? (text : String) : Option Json :=
  (Written.parse? text).bind (Written.value? nestingLimit)

end GrpcDiscovery.Json
