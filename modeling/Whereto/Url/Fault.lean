/-!
What can be wrong with a URL.
-/

namespace Whereto.Url

inductive Fault where
  | relative
  | emptyHost
  | badDomain
  | badCharacter
  | badPort
  | badIpv4
  | badIpv6
  deriving DecidableEq, Repr

def Fault.message : Fault → String
  | relative => "relative URL without a base"
  | emptyHost => "empty host"
  | badDomain => "invalid international domain name"
  | badCharacter => "invalid domain character"
  | badPort => "invalid port number"
  | badIpv4 => "invalid IPv4 address"
  | badIpv6 => "invalid IPv6 address"

end Whereto.Url
