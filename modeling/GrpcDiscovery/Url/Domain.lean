import GrpcDiscovery.Text.Split
import GrpcDiscovery.Text.Utf8
import GrpcDiscovery.Unicode.DomainData
import GrpcDiscovery.Unicode.Label
import GrpcDiscovery.Unicode.Punycode
import GrpcDiscovery.Url.Error

namespace GrpcDiscovery.Domain

/-!
# Domain names

A domain name is sent in ASCII and in lower case. A name with other characters is
put into the one form in which these may stand, and each of its labels that is
not ASCII then is written in Punycode after a mark. A label that has the mark
already must be the form of such a label.
-/

/-- The characters besides controls and blanks that no domain name has. -/
def delimiters : List Char :=
  ['%', '#', '/', ':', '<', '>', '?', '@', '[', '\\', ']', '^', '|']

/-- Whether no domain name has a character. -/
def isForbidden (char : Char) : Bool :=
  char.toNat ≤ 0x20 || char.toNat == 0x7F || delimiters.contains char

/-- Whether a code point is that of an ASCII character. -/
def isAscii (codePoint : Nat) : Bool :=
  codePoint < 0x80

/-- The mark of labels in Punycode. -/
def punycodeMark : List Char :=
  ['x', 'n', '-', '-']

/-- Whether a label is marked as one in Punycode. -/
def isMarked (label : List Char) : Bool :=
  punycodeMark.isPrefixOf (label.map Char.toLower)

/-- What a character stands for in a domain name, if it is allowed at all. -/
def replacement? (char : Char) : Option (List Nat) :=
  if isAscii char.toNat then
    some [char.toLower.toNat]
  else if Unicode.domainCharacters.contains char.toNat then
    some [char.toNat]
  else if Unicode.ignoredInDomains.contains char.toNat then
    some []
  else
    Unicode.domainReplacements.values? char.toNat

/-- The one form of a name. -/
def canonical? (chars : List Char) : Option (List Char) := do
  let replacements ← chars.mapM replacement?
  return (Unicode.composedForm replacements.flatten).map Char.ofNat

/-- Whether code points are in the form in which they may stand in a name. -/
def isCanonical (label : List Nat) : Bool :=
  label.all (fun codePoint =>
      isAscii codePoint || Unicode.domainCharacters.contains codePoint) &&
    Unicode.composedForm label == label

/-- The label that a label of a name stands for. -/
def shownLabel? (label : List Char) : Option (List Nat) :=
  if isMarked label then do
    let shown ← Punycode.decode? (label.drop punycodeMark.length)
    if isCanonical shown ∧ ¬ shown.all isAscii then
      return shown
    else
      none
  else
    some (label.map Char.toNat)

/-- The form of a label that is sent. -/
def sentLabel (label : List Char) : List Char :=
  if label.all fun char => isAscii char.toNat then
    label
  else
    punycodeMark ++ Punycode.encode (label.map Char.toNat)

/-- The form of a name that is sent, the name having more than ASCII in it. -/
def international? (chars : List Char) : Option (List Char) := do
  let name ← canonical? chars
  let labels := Split.on (· == '.') name
  let shown ← labels.mapM shownLabel?
  if Unicode.arePresentable shown then
    return ['.'].intercalate (labels.map sentLabel)
  else
    none

/-- Whether a name is ASCII and stands for itself. -/
def isPlain (chars : List Char) : Bool :=
  chars.all (fun char => isAscii char.toNat) &&
    !(Split.on (· == '.') chars).any isMarked

/-- The ASCII form of the name that a text gives. -/
def ofChars? (chars : List Char) : Option (List Char) := do
  let name ←
    if isPlain chars then
      some (chars.map Char.toLower)
    else
      international? chars
  if name.any isForbidden then
    none
  else
    return name

/-- The ASCII form of the name that bytes give. -/
def ofBytes? (bytes : Bytes) : Option (List Char) :=
  match Utf8.decode bytes with
  | .ok text =>
      ofChars? text.toList
  | .error _ =>
      none

end GrpcDiscovery.Domain
