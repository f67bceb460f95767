import GrpcDiscovery.Toml.Value

namespace GrpcDiscovery.Toml

/-!
# Building tables

Headers and entries are added one after the other. Nothing may be defined twice:
a header opens a table that is new, or has only been passed through; an entry
has a key that is new; and a dotted key leads through tables that dotted keys
made, the last one in any case.
-/

/-- The entries of a table. -/
abbrev Entries := List (String × Toml)

/-- Give a key a value in place of the one it has, or else at the end. -/
def put
    (key : String)
    (value : Toml) :
    Entries →
    Entries
  | [] =>
      [(key, value)]
  | (present, old) :: rest =>
      if present = key then
        (present, value) :: rest
      else
        (present, old) :: put key value rest

/-- Change the entries of the table that a header names, which is the last of several. -/
def changeSection
    (change : Entries → Option Entries) :
    List String →
    Entries →
    Option Entries
  | [], entries =>
      change entries
  | key :: keys, entries =>
      match entry? key entries with
      | none => do
          let inner ← changeSection change keys []
          return put key (.table .passage inner) entries
      | some (.table .inline _) =>
          none
      | some (.table origin inner) => do
          let inner ← changeSection change keys inner
          return put key (.table origin inner) entries
      | some (.tables elements) =>
          match elements.getLast? with
          | none =>
              none
          | some last => do
              let last ← changeSection change keys last
              return put key (.tables (elements.dropLast ++ [last])) entries
      | some _ =>
          none

/-- Open the table of a name. -/
def openTable
    (name : String)
    (entries : Entries) :
    Option Entries :=
  match entry? name entries with
  | none =>
      some (put name (.table .header []) entries)
  | some (.table .passage inner) =>
      some (put name (.table .header inner) entries)
  | some _ =>
      none

/-- Open one more table of a name. -/
def openElement
    (name : String)
    (entries : Entries) :
    Option Entries :=
  match entry? name entries with
  | none =>
      some (put name (.tables [[]]) entries)
  | some (.tables elements) =>
      some (put name (.tables (elements ++ [[]])) entries)
  | some _ =>
      none

/-- Whether a dotted key may lead through a table, which is the last one or is not. -/
def isPassable
    (isLast : Bool) :
    TableOrigin →
    Bool
  | .dotted =>
      true
  | .passage =>
      !isLast
  | _ =>
      false

/-- Add an entry whose key is reached through the tables of other keys. -/
def define
    (name : String)
    (value : Toml) :
    List String →
    Entries →
    Option Entries
  | [], entries =>
      match entry? name entries with
      | none =>
          some (put name value entries)
      | some _ =>
          none
  | key :: keys, entries =>
      match entry? key entries with
      | none => do
          let inner ← define name value keys []
          return put key (.table .dotted inner) entries
      | some (.table origin inner) =>
          if isPassable keys.isEmpty origin then do
            let inner ← define name value keys inner
            return put key (.table origin inner) entries
          else
            none
      | some (.tables elements) =>
          match elements.getLast?, keys with
          | some last, _ :: _ => do
              let last ← define name value keys last
              return put key (.tables (elements.dropLast ++ [last])) entries
          | _, _ =>
              none
      | some _ =>
          none

/-- Add an entry under a key with its dots. -/
def defineDotted
    (keys : List String)
    (value : Toml)
    (entries : Entries) :
    Option Entries :=
  match keys.getLast? with
  | some name =>
      define name value keys.dropLast entries
  | none =>
      none

/-- Open the table that a header names. -/
def openHeader
    (isElement : Bool)
    (keys : List String)
    (entries : Entries) :
    Option Entries :=
  match keys.getLast? with
  | some name =>
      changeSection
        (if isElement then openElement name else openTable name)
        keys.dropLast
        entries
  | none =>
      none

end GrpcDiscovery.Toml
