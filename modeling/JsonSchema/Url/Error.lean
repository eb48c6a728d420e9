/-!
# Why a text is no URL
-/

namespace JsonSchema

/-- Why a text is no URL, or does not resolve against a base. -/
inductive UrlError
  | emptyHost
  | invalidInternationalName
  | invalidPort
  | invalidIpv4
  | invalidIpv6
  | invalidDomainCharacter
  | relativeWithoutBase
  | relativeWithOpaqueBase
  deriving DecidableEq, Repr

/-- The wording of the cause. -/
def UrlError.message : UrlError → String
  | emptyHost => "empty host"
  | invalidInternationalName => "invalid international domain name"
  | invalidPort => "invalid port number"
  | invalidIpv4 => "invalid IPv4 address"
  | invalidIpv6 => "invalid IPv6 address"
  | invalidDomainCharacter => "invalid domain character"
  | relativeWithoutBase => "relative URL without a base"
  | relativeWithOpaqueBase => "relative URL with a cannot-be-a-base base"

end JsonSchema
