import GrpcDiscovery.Url.Path

namespace GrpcDiscovery.Url

/-!
# Reading URLs

Blanks and controls at either end of a text do not belong to the URL, and tabs
and line ends anywhere are passed over. What follows the scheme is read from left
to right: the authority if there is one, the path, the query, the fragment.
-/

/-- Whether a character is passed over at the ends of a text. -/
def isBlank (char : Char) : Bool :=
  char.toNat ≤ 0x20

/-- Whether a character is passed over wherever it stands. -/
def isIgnored (char : Char) : Bool :=
  char == '\t' || char == '\n' || char == '\r'

/-- The characters of a text that count. -/
def significantChars (text : String) : List Char :=
  let trimmed := text.toList.dropWhile isBlank
  let trimmed := (trimmed.reverse.dropWhile isBlank).reverse
  trimmed.filter fun char => !isIgnored char

/-- Whether a character may stand in a scheme. -/
def isSchemeChar (char : Char) : Bool :=
  char.isAlphanum || char == '+' || char == '-' || char == '.'

/-- Read a scheme and its colon. -/
def scheme? (chars : List Char) : Option (String × List Char) :=
  match chars.head?, chars.span isSchemeChar with
  | some first, (scheme, ':' :: rest) =>
      if first.isAlpha then
        some (String.ofList (scheme.map Char.toLower), rest)
      else
        none
  | _, _ =>
      none

/-- Whether a character ends an authority. -/
def endsAuthority
    (kind : SchemeKind)
    (char : Char) :
    Bool :=
  char == '/' || char == '?' || char == '#' || (kind.isSpecial && char == '\\')

/-- Whether a character ends a path. -/
def endsPath (char : Char) : Bool :=
  char == '?' || char == '#'

/-- Whether a character is a slash, or counts as one. -/
def isSlash
    (kind : SchemeKind)
    (char : Char) :
    Bool :=
  char == '/' || (kind.isSpecial && char == '\\')

/-- A user name and a password, encoded. -/
def credentials (chars : List Char) : String × String :=
  match Split.atFirst? ':' chars with
  | some (username, password) =>
      (Percent.encode Percent.userinfoSet username,
        Percent.encode Percent.userinfoSet password)
  | none =>
      (Percent.encode Percent.userinfoSet chars, "")

/-- Read credentials, which stand before the last at sign of an authority. -/
def credentials?
    (kind : SchemeKind)
    (chars : List Char) :
    Except UrlError ((String × String) × List Char) :=
  let (authority, rest) := chars.span fun char => !endsAuthority kind char
  match Split.atLast? '@' authority with
  | none =>
      .ok (("", ""), chars)
  | some (before, after) =>
      if before.isEmpty ∧ after.isEmpty ∧ ¬ rest.isEmpty then
        .error .emptyHost
      else
        .ok (credentials before, after ++ rest)

/-- Split off a host, in which a colon counts only between brackets. -/
def hostChars
    (kind : SchemeKind)
    (bracketed : Bool) :
    List Char →
    List Char × List Char
  | [] =>
      ([], [])
  | char :: rest =>
      if endsAuthority kind char ∨ (char = ':' ∧ ¬ bracketed) then
        ([], char :: rest)
      else
        let bracketed := if char = '[' then true else if char = ']' then false else bracketed
        let (host, rest) := hostChars kind bracketed rest
        (char :: host, rest)

/-- Read a host. -/
def host?
    (kind : SchemeKind)
    (chars : List Char) :
    Except UrlError (Host × List Char) :=
  let (chars, rest) := hostChars kind false chars
  match kind with
  | .other => do
      let host ← Host.other? chars
      if host.isEmpty ∧ rest.head? = some ':' then
        .error .emptyHost
      else
        return (host, rest)
  | _ =>
      if chars.isEmpty then
        .error .emptyHost
      else do
        let host ← Host.special? chars
        return (host, rest)

/-- The port of digits, if there are any; larger numbers than ports are refused. -/
def portNumber? (digits : List Char) : Except UrlError (Option Nat) :=
  match digits, Ipv4.radixNumber? 10 digits with
  | [], _ =>
      .ok none
  | _, some number =>
      if number ≤ 65535 then .ok (some number) else .error .invalidPort
  | _, none =>
      .error .invalidPort

/-- Read a port and the colon before it, if there is one. -/
def port?
    (kind : SchemeKind) :
    List Char →
    Except UrlError (Option Nat × List Char)
  | ':' :: chars => do
      let (digits, rest) := chars.span Char.isDigit
      let port ← portNumber? digits
      let ended :=
        match rest with
        | [] => true
        | char :: _ => char == '\\' || endsAuthority kind char
      if ended then
        return (if port.map .special = some kind then none else port, rest)
      else
        .error .invalidPort
  | chars =>
      .ok (none, chars)

/-- The segments of a path, whose first slash may be missing. -/
def pathSegments
    (kind : SchemeKind)
    (chars : List Char) :
    List (List Char) :=
  match chars with
  | [] =>
      [[]]
  | first :: rest =>
      Split.on (isSlash kind) (if isSlash kind first then rest else chars)

/-- Read a fragment and the sign before it, if there is one. -/
def fragmentOf : List Char → Option String
  | '#' :: chars =>
      some (Percent.encode Percent.fragmentSet chars)
  | _ =>
      none

/-- Read a query and a fragment, and put them to a URL. -/
def withQueryAndFragment
    (kind : SchemeKind)
    (chars : List Char)
    (url : Url) :
    Url :=
  match chars with
  | '?' :: chars =>
      let (query, rest) := chars.span fun char => char != '#'
      let set := if kind.isSpecial then Percent.specialQuerySet else Percent.querySet
      { url with query := some (Percent.encode set query), fragment := fragmentOf rest }
  | chars =>
      { url with fragment := fragmentOf chars }

/-- Read what follows the slashes before an authority. -/
def withAuthority
    (scheme : String)
    (kind : SchemeKind)
    (chars : List Char) :
    Except UrlError Url := do
  let ((username, password), rest) ← credentials? kind chars
  let (host, rest) ← host? kind rest
  if host.isEmpty ∧ (username ≠ "" ∨ password ≠ "") then
    throw .emptyHost
  let (port, rest) ← port? kind rest
  let (path, rest) := rest.span fun char => !endsPath char
  let segments :=
    if path.isEmpty ∧ ¬ kind.isSpecial then
      []
    else
      UrlPath.settled (pathSegments kind path)
  return withQueryAndFragment kind rest {
    scheme := scheme
    username := username
    password := password
    host := some host
    port := port
    path := .ofSegments segments
  }

/-- The host of a file, for which the local host is no host. -/
def fileHost? (chars : List Char) : Except UrlError Host :=
  if chars.isEmpty then
    .ok (.other "")
  else do
    let host ← Host.special? chars
    return if host = .domain "localhost" then .other "" else host

/-- Read what follows the scheme `file`. -/
def withFile (chars : List Char) : Except UrlError Url := do
  let (host, rest) ←
    match chars with
    | first :: second :: rest => do
        if isSlash .file first && isSlash .file second then
          let (host, path) := rest.span fun char => !endsAuthority .file char
          if UrlPath.isDriveLetter host then
            pure (Host.other "", rest)
          else do
            let host ← fileHost? host
            pure (host, path)
        else
          pure (Host.other "", chars)
    | _ =>
        pure (Host.other "", chars)
  let (path, rest) := rest.span fun char => !endsPath char
  let segments := pathSegments .file path
  return withQueryAndFragment .file rest {
    scheme := "file"
    host := some (if UrlPath.beginsWithDrive segments then .other "" else host)
    path := .ofSegments (UrlPath.fileSegments segments)
  }

/-- Read what follows a scheme that is not special. -/
def withOther
    (scheme : String) :
    List Char →
    Except UrlError Url
  | '/' :: '/' :: chars =>
      withAuthority scheme .other chars
  | chars =>
      let (path, rest) := chars.span fun char => !endsPath char
      let path : UrlPath :=
        if path.head? = some '/' then
          .ofSegments (UrlPath.settled (pathSegments .other path))
        else
          .unstructured (Percent.encode Percent.controls path)
      .ok (withQueryAndFragment .other rest { scheme := scheme, path := path })

/-- Read a URL. -/
def parse (text : String) : Except UrlError Url :=
  match scheme? (significantChars text) with
  | none =>
      .error .relativeWithoutBase
  | some (scheme, rest) =>
      match SchemeKind.ofScheme scheme with
      | .file =>
          withFile rest
      | .other =>
          withOther scheme rest
      | kind =>
          withAuthority scheme kind (rest.dropWhile (isSlash kind))

end GrpcDiscovery.Url
