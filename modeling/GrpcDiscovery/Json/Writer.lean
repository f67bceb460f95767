import GrpcDiscovery.Json.Value
import GrpcDiscovery.Text.Hex

namespace GrpcDiscovery.Json

/-!
# Writing JSON text

The text is compact: no blanks between tokens. A string escapes the quote, the
backslash and the controls below U+0020, the five common ones by a letter and
the rest by four lower-case hexadecimal digits; all else stands for itself.
-/

/-- The characters that stand for one character inside a string. -/
def escapeChar (char : Char) : List Char :=
  if char = '"' then
    ['\\', '"']
  else if char = '\\' then
    ['\\', '\\']
  else if char = '\n' then
    ['\\', 'n']
  else if char = '\r' then
    ['\\', 'r']
  else if char = '\t' then
    ['\\', 't']
  else if char.toNat = 8 then
    ['\\', 'b']
  else if char.toNat = 12 then
    ['\\', 'f']
  else if char.toNat < 0x20 then
    ['\\', 'u', '0', '0', Hex.digit (char.toNat / 16), Hex.digit (char.toNat % 16)]
  else
    [char]

/-- A string between quotes. -/
def quote (text : String) : String :=
  String.ofList ('"' :: text.toList.flatMap escapeChar ++ ['"'])

/-- The numeral of a number. -/
def numeralText : JsonNumber → String
  | .integer value =>
      toString value
  | .decimal numeral =>
      numeral

mutual

/-- The compact text of a value. -/
def render : Json → String
  | .null =>
      "null"
  | .bool true =>
      "true"
  | .bool false =>
      "false"
  | .number value =>
      numeralText value
  | .string text =>
      quote text
  | .array items =>
      "[" ++ renderItems items ++ "]"
  | .object members =>
      "\x7b" ++ renderMembers members ++ "\x7d"

/-- The texts of items, with commas between them. -/
def renderItems : List Json → String
  | [] =>
      ""
  | [item] =>
      render item
  | item :: rest =>
      render item ++ "," ++ renderItems rest

/-- The texts of members, with commas between them. -/
def renderMembers : List (String × Json) → String
  | [] =>
      ""
  | [(key, value)] =>
      quote key ++ ":" ++ render value
  | (key, value) :: rest =>
      quote key ++ ":" ++ render value ++ "," ++ renderMembers rest

end

end GrpcDiscovery.Json
