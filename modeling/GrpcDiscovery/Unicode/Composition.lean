import GrpcDiscovery.Unicode.CompositionData

namespace GrpcDiscovery.Unicode

/-!
# Composed form

Texts that differ only in how characters with marks are put together have one
composed form: every composite is taken apart, the marks on a character are put
in the order of their classes, and what can be composed is. Syllables of Hangul
are composed by their numbers.
-/

namespace Hangul

/-- The first syllable, and the first letter of each kind. -/
def syllableBase : Nat := 0xAC00

/-- The first leading consonant. -/
def leadBase : Nat := 0x1100

/-- The first vowel. -/
def vowelBase : Nat := 0x1161

/-- What comes before the first trailing consonant. -/
def trailBase : Nat := 0x11A7

/-- The number of leading consonants. -/
def leadCount : Nat := 19

/-- The number of vowels. -/
def vowelCount : Nat := 21

/-- The number of trailing consonants, none being one of them. -/
def trailCount : Nat := 28

/-- The number of syllables. -/
def syllableCount : Nat := leadCount * vowelCount * trailCount

/-- Whether a code point is a syllable. -/
def isSyllable (codePoint : Nat) : Bool :=
  syllableBase ≤ codePoint && codePoint < syllableBase + syllableCount

/-- The letters of a syllable. -/
def letters (syllable : Nat) : List Nat :=
  let number := syllable - syllableBase
  let lead := leadBase + number / (vowelCount * trailCount)
  let vowel := vowelBase + number % (vowelCount * trailCount) / trailCount
  let trail := number % trailCount
  if trail = 0 then
    [lead, vowel]
  else
    [lead, vowel, trailBase + trail]

/-- The syllable of a consonant and a vowel, or of a syllable and a consonant. -/
def compose? (first second : Nat) : Option Nat :=
  if leadBase ≤ first ∧ first < leadBase + leadCount ∧
      vowelBase ≤ second ∧ second < vowelBase + vowelCount then
    some (syllableBase +
      ((first - leadBase) * vowelCount + (second - vowelBase)) * trailCount)
  else if isSyllable first ∧ (first - syllableBase) % trailCount = 0 ∧
      trailBase < second ∧ second < trailBase + trailCount then
    some (first + (second - trailBase))
  else
    none

end Hangul

/-- The class of a mark, and nought for other characters. -/
def markClass (codePoint : Nat) : Nat :=
  (markClasses.class? codePoint).getD 0

/-- The parts of a composite, if a code point is one. -/
def parts? (codePoint : Nat) : Option (Nat × Nat) :=
  match composites.values? codePoint with
  | some [first, second] =>
      some (first, second)
  | _ =>
      none

/-- The composite of two parts, if there is one. -/
def composite? (first second : Nat) : Option Nat :=
  match Hangul.compose? first second with
  | some syllable =>
      some syllable
  | none =>
      (composites.find? fun run => run.values == [first, second]).map CodeRun.first

/-- The code points that a composite consists of, taken apart at most so often. -/
def decompose : (levels : Nat) → Nat → List Nat
  | 0, codePoint =>
      [codePoint]
  | levels + 1, codePoint =>
      if Hangul.isSyllable codePoint then
        Hangul.letters codePoint
      else
        match parts? codePoint with
        | some (first, second) =>
            decompose levels first ++ [second]
        | none =>
            [codePoint]

/-- How many marks the composite with the most marks has, and more. -/
def decompositionLevels : Nat := 8

/-- Put a mark among those before it, the last of which comes first. -/
def insertMark (codePoint : Nat) : List Nat → List Nat
  | [] =>
      [codePoint]
  | last :: earlier =>
      if markClass codePoint ≠ 0 ∧ markClass codePoint < markClass last then
        last :: insertMark codePoint earlier
      else
        codePoint :: last :: earlier

/-- The code points with the marks on each character in the order of their classes. -/
def orderMarks (codePoints : List Nat) : List Nat :=
  (codePoints.foldl (fun ordered codePoint => insertMark codePoint ordered) []).reverse

/-- A character that may still be composed, and the marks on it, the last one first. -/
structure Composing where
  done : List Nat := []
  base : Option Nat := none
  marks : List Nat := []

/-- The code points of a composition, the last one first. -/
def Composing.all (state : Composing) : List Nat :=
  state.marks ++ state.base.toList ++ state.done

/-- Whether what stands between a character and a mark keeps them apart. -/
def Composing.isBlocked
    (state : Composing)
    (codePoint : Nat) :
    Bool :=
  match state.marks with
  | [] =>
      false
  | last :: _ =>
      markClass codePoint ≤ markClass last

/-- Take one more code point into a composition. -/
def Composing.step
    (state : Composing)
    (codePoint : Nat) :
    Composing :=
  let composed :=
    if state.isBlocked codePoint then
      none
    else
      state.base.bind fun base => composite? base codePoint
  match composed with
  | some composite =>
      { state with base := some composite }
  | none =>
      if markClass codePoint = 0 then
        ⟨state.all, some codePoint, []⟩
      else
        { state with marks := codePoint :: state.marks }

/-- The code points with everything composed that can be. -/
def compose (codePoints : List Nat) : List Nat :=
  (codePoints.foldl Composing.step {}).all.reverse

/-- The composed form of code points. -/
def composedForm (codePoints : List Nat) : List Nat :=
  compose (orderMarks (codePoints.flatMap (decompose decompositionLevels)))

end GrpcDiscovery.Unicode
