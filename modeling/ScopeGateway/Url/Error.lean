/-!
What makes a URL unreadable.
-/
namespace ScopeGateway.Url

inductive UrlError where
  | noBase
  | emptyHost
  | invalidService
  | invalidV4
  | invalidV6
  | invalidDomainCharacter
  | invalidDomainName
deriving DecidableEq, Repr

def UrlError.message : UrlError → String
  | .noBase => "relative URL without a base"
  | .emptyHost => "empty host"
  | .invalidService => "invalid port number"
  | .invalidV4 => "invalid IPv4 address"
  | .invalidV6 => "invalid IPv6 address"
  | .invalidDomainCharacter => "invalid domain character"
  | .invalidDomainName => "invalid international domain name"

end ScopeGateway.Url
