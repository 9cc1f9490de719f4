/-!
# Why a URL is refused

The reasons the URL normaliser gives for refusing a text, each with its message.
-/

namespace HttpBlueprint.Url

/-- A reason to refuse a URL. -/
inductive ParseError where
  | emptyHost
  | invalidDomainName
  | invalidPort
  | invalidIpv4
  | invalidIpv6
  | invalidDomainCharacter
  | relativeWithoutBase
  deriving Repr, DecidableEq, Inhabited

/-- The message of a reason. -/
def ParseError.message : ParseError → String
  | .emptyHost => "empty host"
  | .invalidDomainName => "invalid international domain name"
  | .invalidPort => "invalid port number"
  | .invalidIpv4 => "invalid IPv4 address"
  | .invalidIpv6 => "invalid IPv6 address"
  | .invalidDomainCharacter => "invalid domain character"
  | .relativeWithoutBase => "relative URL without a base"

end HttpBlueprint.Url
