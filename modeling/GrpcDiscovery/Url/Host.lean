import GrpcDiscovery.Url.Domain
import GrpcDiscovery.Url.Ipv6
import GrpcDiscovery.Url.Percent

namespace GrpcDiscovery

/-!
# Hosts of URLs

Under the special schemes a host is an address or a domain name; elsewhere it is
an address in brackets or any text without delimiters.
-/

/-- The host of a URL. -/
inductive Host where
  | domain (name : String)
  | ipv4 (address : Nat)
  | ipv6 (pieces : List Nat)
  /-- A name outside the domain name system, possibly empty. -/
  | other (name : String)
deriving DecidableEq, Repr

namespace Host

/-- The text of a host. -/
def text : Host → String
  | .domain name =>
      name
  | .ipv4 address =>
      Ipv4.text address
  | .ipv6 pieces =>
      "[" ++ Ipv6.text pieces ++ "]"
  | .other name =>
      name

/-- Whether a host has no text. -/
def isEmpty (host : Host) : Bool :=
  host.text.isEmpty

/-- Read an address that stands after an opening bracket. -/
def bracketed? (chars : List Char) : Except UrlError Host :=
  match chars.getLast?, Ipv6.ofChars? chars.dropLast with
  | some ']', some pieces =>
      .ok (.ipv6 pieces)
  | _, _ =>
      .error .invalidIpv6Address

/-- The host of a domain name in ASCII, which may be an address. -/
def ofDomainChars? (name : List Char) : Except UrlError Host :=
  let labels := Split.on (· == '.') name
  if name.isEmpty then
    .error .emptyHost
  else if Ipv4.endsInNumber labels then
    match Ipv4.ofLabels? labels with
    | some address =>
        .ok (.ipv4 address)
    | none =>
        .error .invalidIpv4Address
  else
    .ok (.domain (String.ofList name))

/-- Read the host of a URL with a special scheme. -/
def special? : List Char → Except UrlError Host
  | '[' :: rest =>
      bracketed? rest
  | chars =>
      match Domain.ofBytes? (Percent.decode (String.ofList chars)) with
      | some name =>
          ofDomainChars? name
      | none =>
          .error .invalidDomainName

/-- The characters that no host outside the domain name system has. -/
def delimiters : List Char :=
  ['\x00', '\t', '\n', '\r', ' ', '#', '/', ':', '<', '>', '?', '@', '[', '\\', ']', '^', '|']

/-- Read the host of a URL with any other scheme. -/
def other? : List Char → Except UrlError Host
  | '[' :: rest =>
      bracketed? rest
  | chars =>
      if chars.any delimiters.contains then
        .error .invalidHostCharacter
      else
        .ok (.other (Percent.encode Percent.controls chars))

end Host

end GrpcDiscovery
