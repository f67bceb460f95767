import GrpcDiscovery.Url.Basic

namespace GrpcDiscovery.UrlPath

/-!
# Paths of URLs

A path is read segment by segment. A segment of one dot says nothing, and one of
two dots takes back the segment before it; at the end of a path either leaves an
empty segment. Dots may be percent-encoded. A drive letter is never taken back.

Under the scheme `file` a drive letter at the root is written with a colon, and
slashes at the beginning count as one.
-/

/-- Whether a segment is one dot. -/
def isSingleDot (segment : List Char) : Bool :=
  [".", "%2e"].contains (String.ofList (segment.map Char.toLower))

/-- Whether a segment is two dots. -/
def isDoubleDot (segment : List Char) : Bool :=
  ["..", ".%2e", "%2e.", "%2e%2e"].contains
    (String.ofList (segment.map Char.toLower))

/-- Whether a segment is a letter and a colon, or a bar in place of the colon. -/
def isDriveLetter : List Char → Bool
  | [letter, sign] =>
      letter.isAlpha && (sign == ':' || sign == '|')
  | _ =>
      false

/-- The segments, last first, without the one that two dots take back. -/
def takeBack : List (List Char) → List (List Char)
  | [] =>
      []
  | last :: earlier =>
      if isDriveLetter last then
        last :: earlier
      else
        earlier

/-- Go through segments in order, keeping those that count, last first. -/
def settle
    (kept : List (List Char)) :
    List (List Char) →
    List (List Char)
  | [] =>
      kept
  | segment :: rest =>
      let ending := if rest.isEmpty then [[]] else []
      if isDoubleDot segment then
        settle (ending ++ takeBack kept) rest
      else if isSingleDot segment then
        settle (ending ++ kept) rest
      else
        settle (segment :: kept) rest

/-- The segments that count, in order. -/
def settled (segments : List (List Char)) : List (List Char) :=
  (settle [] segments).reverse

/-- Put a slash after a drive letter that other characters follow. -/
def separateDrive : List (List Char) → List (List Char)
  | (letter :: ':' :: char :: more) :: rest =>
      if letter.isAlpha then
        [letter, ':'] :: (char :: more) :: rest
      else
        (letter :: ':' :: char :: more) :: rest
  | others =>
      others

/-- Write a drive letter at the root with a colon. -/
def normalizeDrive : List (List Char) → List (List Char)
  | [letter, '|'] :: rest =>
      if letter.isAlpha then
        [letter, ':'] :: rest
      else
        [letter, '|'] :: rest
  | others =>
      others

/-- Drop the empty segments at the beginning of a path, of which one segment remains. -/
def dropLeadingEmpty (segments : List (List Char)) : List (List Char) :=
  match segments.dropWhile List.isEmpty with
  | [] =>
      [[]]
  | others =>
      others

/-- The segments of a path under the scheme `file`. -/
def fileSegments (segments : List (List Char)) : List (List Char) :=
  dropLeadingEmpty (normalizeDrive (settled (separateDrive segments)))

/-- Whether a path begins with a drive letter alone, so that it has no other host. -/
def beginsWithDrive (segments : List (List Char)) : Bool :=
  separateDrive segments == segments &&
    match settled segments with
    | first :: _ =>
        isDriveLetter first
    | [] =>
        false

/-- The path of segments, encoded. -/
def ofSegments (segments : List (List Char)) : UrlPath :=
  .segments (segments.map (Percent.encode Percent.pathSet))

end GrpcDiscovery.UrlPath
