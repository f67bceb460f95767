import GrpcDiscovery.Unicode.Composition
import GrpcDiscovery.Unicode.DirectionData

namespace GrpcDiscovery.Unicode

/-!
# Labels that can be shown

A label begins with no mark. The characters that only join or separate others
stand where they make a difference: after a mark that kills a vowel, or, for the
one that separates, between letters that would join. In a name with letters from
the right no label mixes directions so that its parts could change places.
-/

/-- The class of marks that kill a vowel. -/
def viramaClass : Nat := 9

/-- The character that separates letters. -/
def nonJoiner : Nat := 0x200C

/-- The character that joins letters. -/
def joiner : Nat := 0x200D

/-- Whether the code points before a place, the last one first, join to what follows. -/
def joinsForward : List Nat → Bool
  | [] =>
      false
  | codePoint :: earlier =>
      if transparent.contains codePoint then
        joinsForward earlier
      else
        leftJoining.contains codePoint || dualJoining.contains codePoint

/-- Whether the code points after a place join to what comes before. -/
def joinsBackward : List Nat → Bool
  | [] =>
      false
  | codePoint :: later =>
      if transparent.contains codePoint then
        joinsBackward later
      else
        rightJoining.contains codePoint || dualJoining.contains codePoint

/-- Whether joiners stand where they may, `before` being what was passed, the last one first. -/
def joinersFit (before : List Nat) : List Nat → Bool
  | [] =>
      true
  | codePoint :: rest =>
      let afterVirama :=
        before.head?.any fun last => markClass last == viramaClass
      let fits :=
        if codePoint = joiner then
          afterVirama
        else if codePoint = nonJoiner then
          afterVirama || (joinsForward before && joinsBackward rest)
        else
          true
      fits && joinersFit (codePoint :: before) rest

/-- The direction of a character. -/
inductive Direction where
  | left
  | right
  | arabicNumber
  | europeanNumber
  | mark
  | neutral
deriving DecidableEq, Repr

/-- The direction of a character. -/
def Direction.of (codePoint : Nat) : Direction :=
  if rightToLeftLetters.contains codePoint then
    .right
  else if arabicNumbers.contains codePoint then
    .arabicNumber
  else if europeanNumbers.contains codePoint then
    .europeanNumber
  else if nonspacingMarks.contains codePoint then
    .mark
  else if neutralCharacters.contains codePoint then
    .neutral
  else
    .left

/-- Whether a name with such a character has to mind directions. -/
def Direction.isFromRight : Direction → Bool
  | .right =>
      true
  | .arabicNumber =>
      true
  | _ =>
      false

/-- The direction of the last character that is no mark. -/
def lastDirection (directions : List Direction) : Option Direction :=
  (directions.reverse.dropWhile (· == .mark)).head?

/-- Whether a label keeps to one direction. -/
def keepsDirection (label : List Nat) : Bool :=
  let directions := label.map Direction.of
  match directions.head? with
  | none =>
      true
  | some .right =>
      !directions.contains .left &&
        !(directions.contains .europeanNumber && directions.contains .arabicNumber) &&
        (lastDirection directions).any fun last =>
          last == .right || last == .europeanNumber || last == .arabicNumber
  | some .left =>
      !directions.any Direction.isFromRight &&
        (lastDirection directions).any fun last =>
          last == .left || last == .europeanNumber
  | some _ =>
      false

/-- Whether a label can be shown by itself. -/
def isPresentable (label : List Nat) : Bool :=
  !(label.head?.any combiningMarks.contains) && joinersFit [] label

/-- Whether labels can be shown next to one another. -/
def arePresentable (labels : List (List Nat)) : Bool :=
  labels.all isPresentable &&
    (labels.all keepsDirection ||
      !labels.any fun label => label.any fun codePoint => (Direction.of codePoint).isFromRight)

end GrpcDiscovery.Unicode
