import GrpcDiscovery.Text.Hex

namespace GrpcDiscovery.Toml

/-!
# Strings between quotes

A string stands between quotes of one kind. Between double quotes a backslash
begins an escape, between single quotes it does not. Three quotes on either side
let a string go over several lines: a line end right after the opening quotes
does not count, and between double quotes a backslash at the end of a line takes
the blanks and line ends that follow it away.
-/

/-- The quote of double-quoted strings. -/
def doubleQuote : Char := '"'

/-- The quote of single-quoted strings. -/
def singleQuote : Char := '\x27'

/-- Whether a character may stand for itself in a line: no control, except for the tab. -/
def isLineChar (char : Char) : Bool :=
  char == '\t' || (0x20 ≤ char.toNat && char.toNat != 0x7F)

/-- Whether a character is a blank or a tab. -/
def isBlank (char : Char) : Bool :=
  char == ' ' || char == '\t'

/-- The character that a backslash and a letter stand for. -/
def escapedChar? : Char → Option Char
  | 'b' =>
      some (Char.ofNat 8)
  | 't' =>
      some '\t'
  | 'n' =>
      some '\n'
  | 'f' =>
      some (Char.ofNat 12)
  | 'r' =>
      some '\r'
  | 'e' =>
      some (Char.ofNat 27)
  | '"' =>
      some '"'
  | '\\' =>
      some '\\'
  | _ =>
      none

/-- The character of a code, which must be that of one. -/
def charOfCode? (digits : List Char) : Option Char := do
  let code ← Hex.number? digits
  if code.isValidChar then
    return Char.ofNat code
  else
    none

/-- Put a character before what a reader reads. -/
def before
    (char : Char)
    (result : Option (List Char × List Char)) :
    Option (List Char × List Char) :=
  result.map fun (chars, rest) =>
    (char :: chars, rest)

/-- Whether a line ends after blanks. -/
def endsLine : List Char → Bool
  | '\n' :: _ =>
      true
  | '\r' :: '\n' :: _ =>
      true
  | char :: rest =>
      isBlank char && endsLine rest
  | [] =>
      false

/-- Read the rest of a string in one line, its opening double quote being behind. -/
def basicRest : List Char → Option (List Char × List Char)
  | '"' :: rest =>
      some ([], rest)
  | '\\' :: 'x' :: a :: b :: rest => do
      let char ← charOfCode? [a, b]
      before char (basicRest rest)
  | '\\' :: 'u' :: a :: b :: c :: d :: rest => do
      let char ← charOfCode? [a, b, c, d]
      before char (basicRest rest)
  | '\\' :: 'U' :: a :: b :: c :: d :: e :: f :: g :: h :: rest => do
      let char ← charOfCode? [a, b, c, d, e, f, g, h]
      before char (basicRest rest)
  | '\\' :: letter :: rest => do
      let char ← escapedChar? letter
      before char (basicRest rest)
  | char :: rest =>
      if isLineChar char then
        before char (basicRest rest)
      else
        none
  | [] =>
      none

/--
Read the rest of a string over several lines, its opening double quotes being
behind. Up to two quotes may stand before the three closing ones. `skipping` says
that blanks and line ends do not count.
-/
def basicLinesRest
    (skipping : Bool) :
    List Char →
    Option (List Char × List Char)
  | '"' :: '"' :: '"' :: '"' :: '"' :: rest =>
      some (['"', '"'], rest)
  | '"' :: '"' :: '"' :: '"' :: rest =>
      some (['"'], rest)
  | '"' :: '"' :: '"' :: rest =>
      some ([], rest)
  | '\\' :: 'x' :: a :: b :: rest => do
      let char ← charOfCode? [a, b]
      before char (basicLinesRest false rest)
  | '\\' :: 'u' :: a :: b :: c :: d :: rest => do
      let char ← charOfCode? [a, b, c, d]
      before char (basicLinesRest false rest)
  | '\\' :: 'U' :: a :: b :: c :: d :: e :: f :: g :: h :: rest => do
      let char ← charOfCode? [a, b, c, d, e, f, g, h]
      before char (basicLinesRest false rest)
  | '\\' :: letter :: rest =>
      if endsLine (letter :: rest) then
        basicLinesRest true (letter :: rest)
      else do
        let char ← escapedChar? letter
        before char (basicLinesRest false rest)
  | '\r' :: '\n' :: rest =>
      if skipping then
        basicLinesRest true rest
      else
        before '\r' (before '\n' (basicLinesRest false rest))
  | char :: rest =>
      if skipping ∧ (isBlank char ∨ char = '\n') then
        basicLinesRest true rest
      else if isLineChar char ∨ char = '\n' then
        before char (basicLinesRest false rest)
      else
        none
  | [] =>
      none

/-- Read the rest of a string in one line, its opening single quote being behind. -/
def literalRest : List Char → Option (List Char × List Char)
  | [] =>
      none
  | char :: rest =>
      if char = singleQuote then
        some ([], rest)
      else if isLineChar char then
        before char (literalRest rest)
      else
        none

/--
Read the rest of a string over several lines, its opening single quotes being
behind. Up to two quotes may stand before the three closing ones.
-/
def literalLinesRest : List Char → Option (List Char × List Char)
  | '\x27' :: '\x27' :: '\x27' :: '\x27' :: '\x27' :: rest =>
      some ([singleQuote, singleQuote], rest)
  | '\x27' :: '\x27' :: '\x27' :: '\x27' :: rest =>
      some ([singleQuote], rest)
  | '\x27' :: '\x27' :: '\x27' :: rest =>
      some ([], rest)
  | '\r' :: '\n' :: rest =>
      before '\r' (before '\n' (literalLinesRest rest))
  | char :: rest =>
      if isLineChar char ∨ char = '\n' then
        before char (literalLinesRest rest)
      else
        none
  | [] =>
      none

/-- Drop a line end at the beginning. -/
def dropLineEnd : List Char → List Char
  | '\n' :: rest =>
      rest
  | '\r' :: '\n' :: rest =>
      rest
  | chars =>
      chars

/-- Read a string in one line, if there is one. -/
def quotedLine? : List Char → Option (List Char × List Char)
  | [] =>
      none
  | char :: rest =>
      if char = doubleQuote then
        basicRest rest
      else if char = singleQuote then
        literalRest rest
      else
        none

/-- Read a string, if there is one. -/
def quoted? (chars : List Char) : Option (List Char × List Char) :=
  if [doubleQuote, doubleQuote, doubleQuote].isPrefixOf chars then
    basicLinesRest false (dropLineEnd (chars.drop 3))
  else if [singleQuote, singleQuote, singleQuote].isPrefixOf chars then
    literalLinesRest (dropLineEnd (chars.drop 3))
  else
    quotedLine? chars

end GrpcDiscovery.Toml
