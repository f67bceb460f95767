import GrpcDiscovery.Url.Host

namespace GrpcDiscovery

/-!
# URLs

A URL consists of a scheme, possibly an authority (a host, with credentials and a
port), a path, and possibly a query and a fragment. The parts are kept in the
encoded form in which they are written.

Six schemes are special: they have an authority, most of them with a port by
default, and their paths are always lists of segments.
-/

/-- What a scheme asks of a URL. -/
inductive SchemeKind where
  /-- An authority is required. -/
  | special (defaultPort : Nat)
  /-- An authority without credentials and port, which may be empty. -/
  | file
  /-- An authority is possible. -/
  | other
deriving DecidableEq, Repr

namespace SchemeKind

/-- The kind of a scheme in lower case. -/
def ofScheme : String → SchemeKind
  | "http" =>
      .special 80
  | "https" =>
      .special 443
  | "ws" =>
      .special 80
  | "wss" =>
      .special 443
  | "ftp" =>
      .special 21
  | "file" =>
      .file
  | _ =>
      .other

/-- Whether backslashes count as slashes. -/
def isSpecial : SchemeKind → Bool
  | .other =>
      false
  | _ =>
      true

end SchemeKind

/-- The path of a URL. -/
inductive UrlPath where
  /-- Segments, each after a slash. -/
  | segments (list : List String)
  /-- Text without structure. -/
  | unstructured (content : String)
deriving DecidableEq, Repr

/-- The text of a path. -/
def UrlPath.text : UrlPath → String
  | .segments list =>
      String.join (list.map fun segment => "/" ++ segment)
  | .unstructured content =>
      content

/-- A URL in normal form. -/
structure Url where
  scheme : String
  username : String := ""
  password : String := ""
  /-- Absent where there is no authority at all. -/
  host : Option Host := none
  /-- Absent where it is the one that the scheme has by default. -/
  port : Option Nat := none
  path : UrlPath
  query : Option String := none
  fragment : Option String := none
deriving DecidableEq, Repr

namespace Url

/-- Whether there is a host that is not empty. -/
def hasHost (url : Url) : Bool :=
  match url.host with
  | some host =>
      !host.isEmpty
  | none =>
      false

/-- The credentials before a host. -/
def credentialsText (url : Url) : String :=
  let password := if url.password = "" then "" else ":" ++ url.password
  if url.username = "" ∧ url.password = "" then
    ""
  else
    url.username ++ password ++ "@"

/--
What stands between the scheme and the path.

Without an authority, a path that begins with two slashes would read like one;
it is set off by a dot segment.
-/
def authorityText (url : Url) : String :=
  match url.host, url.path with
  | some host, _ =>
      "//" ++ url.credentialsText ++ host.text ++
        match url.port with
        | some port => ":" ++ toString port
        | none => ""
  | none, .segments ("" :: _ :: _) =>
      "/."
  | none, _ =>
      ""

/-- An optional part after the sign that introduces it. -/
def partText
    (sign : String) :
    Option String →
    String
  | some part =>
      sign ++ part
  | none =>
      ""

/-- The text of a URL. -/
def text (url : Url) : String :=
  url.scheme ++ ":" ++ url.authorityText ++ url.path.text ++
    partText "?" url.query ++ partText "#" url.fragment

/-- Whether bytes are UTF-8. -/
def isText (encoded : String) : Bool :=
  (Utf8.decode (Percent.decode encoded)).toOption.isSome

/--
The URL without its credentials, which a request sends in a header.

They stay where they are when the user name, or all that there is, encodes no
text.
-/
def withoutCredentials (url : Url) : Url :=
  if isText url.username ∧
      (url.username ≠ "" ∨ (url.password ≠ "" ∧ isText url.password)) then
    { url with username := "", password := "" }
  else
    url

end Url

end GrpcDiscovery
