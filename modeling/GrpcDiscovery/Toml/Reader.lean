import GrpcDiscovery.Toml.Scalar
import GrpcDiscovery.Toml.Table
import GrpcDiscovery.Toml.Text

namespace GrpcDiscovery.Toml

/-!
# Reading TOML

A document is a sequence of lines: headers, which open tables, and entries,
which belong to the table opened last. An entry may go over several lines. Arrays
and tables in braces nest at most eighty deep; line ends and comments may stand
between their items, and a comma after the last one.
-/

/-- A reader of characters. -/
abbrev Parse (α : Type) := List Char → Option (α × List Char)

/-- How many arrays and tables in braces may be open at once. -/
def nestingLimit : Nat := 80

/-- A line, or the lines of one entry. -/
inductive Statement where
  | blank
  | header (isElement : Bool) (keys : List String)
  | entry (keys : List String) (value : Toml)

/-- Drop blanks and tabs. -/
def skipBlank (chars : List Char) : List Char :=
  chars.dropWhile isBlank

/-- Drop blanks, line ends and comments. -/
def skipGap (inComment : Bool) : List Char → Option (List Char)
  | '\n' :: rest =>
      skipGap false rest
  | '\r' :: '\n' :: rest =>
      skipGap false rest
  | char :: rest =>
      if inComment then
        if isLineChar char then skipGap true rest else none
      else if isBlank char then
        skipGap false rest
      else if char = '#' then
        skipGap true rest
      else
        some (char :: rest)
  | [] =>
      some []

/-- Drop what may stand after a statement, up to the end of the line. -/
def skipLine (inComment : Bool) : List Char → Option (List Char)
  | '\n' :: rest =>
      some rest
  | '\r' :: '\n' :: rest =>
      some rest
  | char :: rest =>
      if inComment then
        if isLineChar char then skipLine true rest else none
      else if isBlank char then
        skipLine false rest
      else if char = '#' then
        skipLine true rest
      else
        none
  | [] =>
      some []

/-- Whether a character may stand in a key without quotes. -/
def isKeyChar (char : Char) : Bool :=
  char.isAlphanum || char == '_' || char == '-'

/-- Read a key without dots. -/
def simpleKey (chars : List Char) : Option (String × List Char) :=
  match quotedLine? chars with
  | some (key, rest) =>
      some (String.ofList key, rest)
  | none =>
      match chars.span isKeyChar with
      | ([], _) =>
          none
      | (key, rest) =>
          some (String.ofList key, rest)

/--
Read a key with its dots.

`fuel` bounds the number of its parts; the number of characters is enough, since
no part is empty of characters.
-/
def dottedKey :
    (fuel : Nat) →
    Parse (List String)
  | 0, _ =>
      none
  | fuel + 1, chars => do
      let (key, rest) ← simpleKey (skipBlank chars)
      match skipBlank rest with
      | '.' :: rest =>
          let (keys, rest) ← dottedKey fuel rest
          return (key :: keys, rest)
      | rest =>
          return ([key], rest)

/-- Read a key with its dots and the blanks after it. -/
def key (chars : List Char) : Option (List String × List Char) :=
  dottedKey (chars.length + 1) chars

/--
Read items with commas between them, and perhaps after them, up to a closing sign.

`fuel` bounds the number of items; the number of characters is enough, since an
item has at least one.
-/
def items
    {α : Type}
    (item : Parse α)
    (closing : Char) :
    (fuel : Nat) →
    Parse (List α)
  | 0, _ =>
      none
  | fuel + 1, chars => do
      match ← skipGap false chars with
      | [] =>
          none
      | char :: rest =>
          if char = closing then
            return ([], rest)
          else
            let (first, rest) ← item (char :: rest)
            match ← skipGap false rest with
            | ',' :: rest =>
                let (others, rest) ← items item closing fuel rest
                return (first :: others, rest)
            | next :: rest =>
                if next = closing then
                  return ([first], rest)
                else
                  none
            | [] =>
                none

/-- Read an entry: a key, an equals sign and a value. -/
def entry
    (value : Parse Toml)
    (chars : List Char) :
    Option ((List String × Toml) × List Char) := do
  let (keys, rest) ← key chars
  match rest with
  | '=' :: rest =>
      let (content, rest) ← value (skipBlank rest)
      return ((keys, content), rest)
  | _ =>
      none

/-- The table of entries in braces. -/
def inlineTable? (entries : List (List String × Toml)) : Option Toml := do
  let entries ←
    entries.foldlM
      (fun collected entry => defineDotted entry.1 entry.2 collected)
      []
  return .table .inline entries

/-- Read a value in which at most `levels` arrays and tables are open at once. -/
def value :
    (levels : Nat) →
    Parse Toml
  | levels, chars =>
      match levels, chars with
      | levels + 1, '[' :: rest => do
          let (values, rest) ← items (value levels) ']' (rest.length + 1) rest
          return (.array values, rest)
      | levels + 1, '\x7b' :: rest => do
          let (entries, rest) ← items (entry (value levels)) '\x7d' (rest.length + 1) rest
          let table ← inlineTable? entries
          return (table, rest)
      | _, chars =>
          if chars.head? = some doubleQuote ∨ chars.head? = some singleQuote then do
            let (content, rest) ← quoted? chars
            return (.string (String.ofList content), rest)
          else
            readWord chars

/-- Read a header after its opening bracket. -/
def header (chars : List Char) : Option (Statement × List Char) :=
  match chars with
  | '[' :: rest => do
      let (keys, rest) ← key rest
      match rest with
      | ']' :: ']' :: rest =>
          return (.header true keys, rest)
      | _ =>
          none
  | chars => do
      let (keys, rest) ← key chars
      match rest with
      | ']' :: rest =>
          return (.header false keys, rest)
      | _ =>
          none

/-- Read a statement and the rest of its line. -/
def statement (chars : List Char) : Option (Statement × List Char) := do
  let chars := skipBlank chars
  match skipLine false chars with
  | some rest =>
      return (.blank, rest)
  | none =>
      match chars with
      | '[' :: rest =>
          let (statement, rest) ← header rest
          let rest ← skipLine false rest
          return (statement, rest)
      | chars =>
          let ((keys, content), rest) ← entry (value nestingLimit) chars
          let rest ← skipLine false rest
          return (.entry keys content, rest)

/--
Read statements to the end.

`fuel` bounds their number; the number of characters is enough, since each
statement takes at least one.
-/
def statements :
    (fuel : Nat) →
    List Char →
    Option (List Statement)
  | _, [] =>
      some []
  | 0, _ =>
      none
  | fuel + 1, chars => do
      let (first, rest) ← statement chars
      let others ← statements fuel rest
      return first :: others

/-- The table of statements, `section` naming the table opened last. -/
def collect
    (opened : List String)
    (entries : Entries) :
    List Statement →
    Option Entries
  | [] =>
      some entries
  | .blank :: rest =>
      collect opened entries rest
  | .header isElement keys :: rest => do
      let entries ← openHeader isElement keys entries
      collect keys entries rest
  | .entry keys content :: rest => do
      let entries ← changeSection (defineDotted keys content) opened entries
      collect opened entries rest

/-- The characters of a text without the mark that may begin it. -/
def withoutMark (chars : List Char) : List Char :=
  if chars.head? = some (Char.ofNat 0xFEFF) then chars.tail else chars

/-- Read a document. -/
def parse? (text : String) : Option Toml := do
  let chars := withoutMark text.toList
  let statements ← statements (chars.length + 1) chars
  let entries ← collect [] [] statements
  return .table .header entries

end GrpcDiscovery.Toml
