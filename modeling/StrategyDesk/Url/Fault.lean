/-!
# Faults of a URL

Why a text is not an absolute URL.
-/

namespace StrategyDesk

/-- Why a text is not an absolute URL. -/
inductive UrlFault where
  /-- There is no scheme. -/
  | relative
  | emptyHost
  | badPort
  | badIPv4
  | badIPv6
  /-- The host is not a domain name. -/
  | badDomain
  /-- A host that need not be a domain name holds a character that no host may. -/
  | badHostCharacter
deriving DecidableEq, Repr

/-- The wording of a fault. -/
def UrlFault.message : UrlFault → String
  | relative => "relative URL without a base"
  | emptyHost => "empty host"
  | badPort => "invalid port number"
  | badIPv4 => "invalid IPv4 address"
  | badIPv6 => "invalid IPv6 address"
  | badDomain => "invalid international domain name"
  | badHostCharacter => "invalid domain character"

end StrategyDesk
