import ContentPolicy.Url.Error
import ContentPolicy.Url.Ipv6
import ContentPolicy.Url.Percent

/-!
# Hosts

The host of an address is a name or a numeric address. The hosts of special schemes are decoded,
taken to lower case and examined for numbers; those of other schemes are kept as they are. Only
names in ASCII are served: a name that decodes to anything else is refused, and a label that begins
with `xn--` is not checked for the name that it encodes.
-/

namespace ContentPolicy

namespace Url

inductive Host where
  /-- A name, empty where no host is given. -/
  | domain (name : String)
  | ipv4 (ip : Ipv4)
  | ipv6 (ip : Ipv6)
deriving DecidableEq, Repr

namespace Host

def text : Host → String
  | .domain name => name
  | .ipv4 ip => ip.text
  | .ipv6 ip => ip.text

def isEmpty (host : Host) : Bool := host = .domain ""

/-- The characters that a name of a special scheme may not have. -/
def forbiddenInDomain (character : Char) : Bool :=
  character.toNat ≤ 0x20 || 0x7F ≤ character.toNat ||
    ['%', '#', '/', ':', '<', '>', '?', '@', '[', '\\', ']', '^', '|'].contains character

/-- The characters that a host of another scheme may not have. -/
def forbiddenInOrdinary (character : Char) : Bool :=
  ['\x00', '\t', '\n', '\r', ' ', '#', '/', ':', '<', '>', '?', '@', '[', '\\', ']', '^',
    '|'].contains character

def ofBrackets (text : List Char) : Except Error Host :=
  if text.getLast? = some ']' then
    match Ipv6.ofText? (text.drop 1).dropLast with
    | some ip => .ok (.ipv6 ip)
    | none => .error .invalidIpv6
  else .error .invalidIpv6

/-- The host of a special scheme. -/
def ofSpecial (text : List Char) : Except Error Host :=
  if text.head? = some '[' then ofBrackets text
  else
    let name := (percentDecode text).map fun code => (Char.ofNat code).toLower
    if name.any forbiddenInDomain then .error .invalidDomainName
    else if name.isEmpty then .error .emptyHost
    else if Ipv4.endsInNumber name then
      match Ipv4.ofHost? name with
      | some ip => .ok (.ipv4 ip)
      | none => .error .invalidIpv4
    else .ok (.domain (String.ofList name))

/-- The host of a scheme that is not special. -/
def ofOrdinary (text : List Char) : Except Error Host :=
  if text.head? = some '[' then ofBrackets text
  else if text.any forbiddenInOrdinary then .error .invalidDomainCharacter
  else .ok (.domain (String.ofList (percentEncode isControl text)))

end Host

end Url

end ContentPolicy
