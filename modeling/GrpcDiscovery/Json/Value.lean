namespace GrpcDiscovery

/-!
# JSON values

Objects keep their members in order of appearance. A number is either an
integer that fits in sixty-four bits, signed or unsigned, or any other numeral,
which is kept as it was written.
-/

/-- A JSON number. -/
inductive JsonNumber where
  /-- An integer numeral within `-2 ^ 63 ≤ value < 2 ^ 64`. -/
  | integer (value : Int)
  /-- Any other numeral: fractions, exponents, negative zero, larger integers. -/
  | decimal (numeral : String)
deriving DecidableEq, Repr

/-- A JSON value. -/
inductive Json where
  | null
  | bool (value : Bool)
  | number (value : JsonNumber)
  | string (text : String)
  | array (items : List Json)
  | object (members : List (String × Json))
deriving BEq, Repr, Inhabited

namespace Json

/-- An integer as a value. -/
def int (value : Int) : Json :=
  .number (.integer value)

/-- A natural number as a value. -/
def nat (value : Nat) : Json :=
  .number (.integer value)

/-- An absent text is null. -/
def ofText? : Option String → Json
  | some text =>
      .string text
  | none =>
      .null

/-- The name of a value's kind, as messages spell it. -/
def kindName : Json → String
  | .null =>
      "null"
  | .bool _ =>
      "boolean"
  | .number _ =>
      "number"
  | .string _ =>
      "string"
  | .array _ =>
      "array"
  | .object _ =>
      "object"

/-- Whether a value is an object. -/
def isObject : Json → Bool
  | .object _ =>
      true
  | _ =>
      false

/-- Whether a value is an array. -/
def isArray : Json → Bool
  | .array _ =>
      true
  | _ =>
      false

/-- Whether a value is a string. -/
def isString : Json → Bool
  | .string _ =>
      true
  | _ =>
      false

/-- Whether a value is a number. -/
def isNumber : Json → Bool
  | .number _ =>
      true
  | _ =>
      false

/-- Whether a value is a Boolean. -/
def isBool : Json → Bool
  | .bool _ =>
      true
  | _ =>
      false

/-- Whether a value is null. -/
def isNull : Json → Bool
  | .null =>
      true
  | _ =>
      false

end Json

namespace JsonMembers

/--
Set the member of a key.

A key that is there keeps its position and takes the new value; any other key
goes to the end.
-/
def insert
    (key : String)
    (value : Json) :
    List (String × Json) →
    List (String × Json)
  | [] =>
      [(key, value)]
  | (present, old) :: rest =>
      if present = key then
        (present, value) :: rest
      else
        (present, old) :: insert key value rest

/-- The members that result from setting each key in turn. -/
def ofList (members : List (String × Json)) : List (String × Json) :=
  members.foldl
    (fun collected member => insert member.1 member.2 collected)
    []

/-- The value of the first member with a key. -/
def find?
    (key : String) :
    List (String × Json) →
    Option Json
  | [] =>
      none
  | (present, value) :: rest =>
      if present = key then
        some value
      else
        find? key rest

end JsonMembers

namespace Json

mutual

/-- The value in which every repeated key keeps its first place and its last value. -/
def collapse : Json → Json
  | .array items =>
      .array (collapseItems items)
  | .object members =>
      .object (JsonMembers.ofList (collapseMembers members))
  | other =>
      other

/-- Collapse each item of an array. -/
def collapseItems : List Json → List Json
  | [] =>
      []
  | item :: rest =>
      collapse item :: collapseItems rest

/-- Collapse the value of each member. -/
def collapseMembers : List (String × Json) → List (String × Json)
  | [] =>
      []
  | (key, value) :: rest =>
      (key, collapse value) :: collapseMembers rest

end

/-- The value of a key of an object. -/
def member?
    (key : String) :
    Json →
    Option Json
  | .object members =>
      JsonMembers.find? key members
  | _ =>
      none

end Json

end GrpcDiscovery
