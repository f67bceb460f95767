namespace GrpcDiscovery

/-!
# TOML values

A document is a table. How a table came about decides what may be added to it: a
table written between braces is complete, one that a header opened takes its own
entries only, and one that is merely on the way to another may still be opened.
-/

/-- How a table came about. -/
inductive TableOrigin where
  /-- Written between braces. -/
  | inline
  /-- Opened by a header. -/
  | header
  /-- On the way to a table that a header opened. -/
  | passage
  /-- On the way to an entry with a dotted key. -/
  | dotted
deriving DecidableEq, Repr

/-- A TOML value. -/
inductive Toml where
  | string (text : String)
  | integer (value : Int)
  /-- A number with its numeral. -/
  | float (numeral : String)
  | boolean (value : Bool)
  /-- A date, a time of day, or both, as written. -/
  | datetime (text : String)
  | array (items : List Toml)
  | table (origin : TableOrigin) (entries : List (String × Toml))
  /-- Tables that headers opened one after the other under one name. -/
  | tables (elements : List (List (String × Toml)))
deriving BEq, Repr, Inhabited

namespace Toml

/-- The value of a key among entries. -/
def entry?
    (key : String)
    (entries : List (String × Toml)) :
    Option Toml :=
  (entries.find? fun entry => entry.1 == key).map Prod.snd

/-- The value of a key of a table. -/
def get?
    (key : String) :
    Toml →
    Option Toml
  | .table _ entries =>
      entry? key entries
  | _ =>
      none

/-- The number of an integer. -/
def integer? : Toml → Option Int
  | .integer value =>
      some value
  | _ =>
      none

/-- The text of a string. -/
def string? : Toml → Option String
  | .string text =>
      some text
  | _ =>
      none

end Toml

end GrpcDiscovery
