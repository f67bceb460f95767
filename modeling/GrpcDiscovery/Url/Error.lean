namespace GrpcDiscovery

/-!
# Faults of URLs

A text is not a URL when it has no scheme, or when the host or the port that its
scheme calls for is missing or malformed.
-/

/-- Why a text is not a URL. -/
inductive UrlError where
  /-- There is no scheme, so the text would need a base. -/
  | relativeWithoutBase
  /-- The scheme, a port or a user needs a host, and there is none. -/
  | emptyHost
  /-- A port is not a number below `2 ^ 16`. -/
  | invalidPort
  /-- A host that ends in a number is not an address of four bytes. -/
  | invalidIpv4Address
  /-- What stands in brackets is not an address of eight pieces. -/
  | invalidIpv6Address
  /-- A domain name has a character or a label that no domain name has. -/
  | invalidDomainName
  /-- A host outside the domain name system has a delimiter in it. -/
  | invalidHostCharacter
deriving DecidableEq, Repr

/-- The wording of a fault. -/
def UrlError.message : UrlError → String
  | .relativeWithoutBase =>
      "relative URL without a base"
  | .emptyHost =>
      "empty host"
  | .invalidPort =>
      "invalid port number"
  | .invalidIpv4Address =>
      "invalid IPv4 address"
  | .invalidIpv6Address =>
      "invalid IPv6 address"
  | .invalidDomainName =>
      "invalid international domain name"
  | .invalidHostCharacter =>
      "invalid domain character"

end GrpcDiscovery
