/-!
# What can be wrong with a URL
-/

namespace Autostart.Url

/-- What can be wrong with a URL. -/
inductive Fault where
  /-- The text does not start with a scheme. -/
  | noScheme
  /-- A host is missing. -/
  | emptyHost
  /-- What follows the colon after the host is no number of 16 bits. -/
  | invalidHostNumber
  /-- The brackets of a host hold no IPv6 address. -/
  | invalidIpv6
  /-- A host that ends in a number is no IPv4 address. -/
  | invalidIpv4
  /-- A host name has a character that it must not have. -/
  | invalidDomain
  /-- A host of a scheme without rules of its own has a character that it must not have. -/
  | invalidHostCharacter
deriving DecidableEq, Repr

/-- The text that reports a fault. -/
def Fault.message : Fault → String
  | noScheme => "relative URL without a base"
  | emptyHost => "empty host"
  | invalidHostNumber => "invalid port number"
  | invalidIpv6 => "invalid IPv6 address"
  | invalidIpv4 => "invalid IPv4 address"
  | invalidDomain => "invalid international domain name"
  | invalidHostCharacter => "invalid domain character"

end Autostart.Url
