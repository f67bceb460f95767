import GrpcDiscovery.Text.Hex
import GrpcDiscovery.Text.Split

namespace GrpcDiscovery.Unicode

/-!
# Tables of code points

A table lists runs of code points, with a value for each run where there is
something to say about its members. It is written as a text: a run is its first
and last code point in hexadecimal, then perhaps a stride, then perhaps the values
of its first member, as in `41-5A:61` or `100-12E/2:101`.
-/

/-- Code points `first`, `first + stride`, up to `last`, and what is said of `first`. -/
structure CodeRun where
  first : Nat
  last : Nat
  stride : Nat
  values : List Nat
deriving DecidableEq, Repr

/-- Whether a code point lies in a run. -/
def CodeRun.contains
    (run : CodeRun)
    (codePoint : Nat) :
    Bool :=
  run.first ≤ codePoint && codePoint ≤ run.last &&
    (codePoint - run.first) % run.stride == 0

/-- Read a run. -/
def CodeRun.ofChars? (chars : List Char) : Option CodeRun := do
  let (members, values) := (Split.atFirst? ':' chars).getD (chars, [])
  let (bounds, stride) := (Split.atFirst? '/' members).getD (members, ['1'])
  let (first, last) := (Split.atFirst? '-' bounds).getD (bounds, bounds)
  let first ← Hex.number? first
  let last ← Hex.number? last
  let stride ← Hex.number? stride
  let values ←
    if values.isEmpty then
      pure []
    else
      (Split.on (· == '.') values).mapM Hex.number?
  return ⟨first, last, stride, values⟩

/-- A table of code points. -/
abbrev CodeTable := List CodeRun

namespace CodeTable

/-- The table that a text lists. -/
def ofText (text : String) : CodeTable :=
  (Split.on (fun char => char == ' ' || char == '\n') text.toList).filterMap
    fun entry => if entry.isEmpty then none else CodeRun.ofChars? entry

/-- Whether a table lists a code point. -/
def contains
    (table : CodeTable)
    (codePoint : Nat) :
    Bool :=
  table.any fun run => run.contains codePoint

/--
What a table says of a code point.

The one value of a run goes up with its members; several values belong to a run
of one member.
-/
def values?
    (table : CodeTable)
    (codePoint : Nat) :
    Option (List Nat) :=
  (table.find? fun run => run.contains codePoint).map fun run =>
    run.values.map (· + (codePoint - run.first))

/-- What a table says of all members of the run in which a code point lies. -/
def class?
    (table : CodeTable)
    (codePoint : Nat) :
    Option Nat :=
  (table.find? fun run => run.contains codePoint).bind fun run =>
    run.values.head?

end CodeTable

end GrpcDiscovery.Unicode
