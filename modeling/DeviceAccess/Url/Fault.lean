/-!
# Why a text is no address

The causes for which an address, or a host that is to be put into one, is refused, with the wording
of each.
-/

namespace DeviceAccess

/-- Why an address or a host is refused. -/
inductive UrlFault where
  | emptyHost
  | hostName
  | port
  | ipv4
  | ipv6
  | hostCharacter
  | noScheme
  | noAuthority
  deriving DecidableEq, Repr

/-- The wording of a cause. -/
def UrlFault.message : UrlFault → String
  | .emptyHost => "empty host"
  | .hostName => "invalid international domain name"
  | .port => "invalid port number"
  | .ipv4 => "invalid IPv4 address"
  | .ipv6 => "invalid IPv6 address"
  | .hostCharacter => "invalid domain character"
  | .noScheme => "relative URL without a base"
  | .noAuthority => "a cannot-be-a-base URL doesn’t have a host to set"

end DeviceAccess
