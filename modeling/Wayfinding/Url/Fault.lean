/-!
# Faults of URLs

Why a text is no URL, or not one that a path can be appended to.
-/

namespace Wayfinding

/-- Why a URL cannot be used. -/
inductive UrlFault where
  /-- The text starts with no scheme. -/
  | noScheme
  | emptyHost
  | badPort
  | badIpv4
  | badIpv6
  | badDomain
  | badHostCharacter
  /-- What follows the scheme is no path of segments. -/
  | noSegments
deriving DecidableEq, Repr

namespace UrlFault

/-- The fault in words. -/
def message : UrlFault → String
  | noScheme => "relative URL without a base"
  | emptyHost => "empty host"
  | badPort => "invalid port number"
  | badIpv4 => "invalid IPv4 address"
  | badIpv6 => "invalid IPv6 address"
  | badDomain => "invalid international domain name"
  | badHostCharacter => "invalid domain character"
  | noSegments => "relative URL with a cannot-be-a-base base"

end UrlFault

end Wayfinding
