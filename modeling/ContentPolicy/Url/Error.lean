/-!
# Invalid addresses

Why a text is no address.
-/

namespace ContentPolicy

namespace Url

/-- The cause for refusing a text as an address. -/
inductive Error where
  /-- There is no scheme, and nothing that the address could be relative to. -/
  | relativeWithoutBase
  | emptyHost
  /-- The port is no number of 16 bits. -/
  | invalidPort
  /-- The host ends in a number and is no address of four bytes. -/
  | invalidIpv4
  /-- The brackets hold no address of eight groups. -/
  | invalidIpv6
  | invalidDomainName
  /-- The host has a character that no host may have. -/
  | invalidDomainCharacter
deriving DecidableEq, Repr

def Error.message : Error → String
  | .relativeWithoutBase => "relative URL without a base"
  | .emptyHost => "empty host"
  | .invalidPort => "invalid port number"
  | .invalidIpv4 => "invalid IPv4 address"
  | .invalidIpv6 => "invalid IPv6 address"
  | .invalidDomainName => "invalid international domain name"
  | .invalidDomainCharacter => "invalid domain character"

end Url

end ContentPolicy
