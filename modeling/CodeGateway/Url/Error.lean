namespace CodeGateway.Url

inductive Error where
  | emptyHost
  | badInternationalName
  | badPort
  | badIpv4
  | badIpv6
  | badHostCharacter
  | relativeWithoutBase
  deriving DecidableEq

def Error.message : Error → String
  | .emptyHost => "empty host"
  | .badInternationalName => "invalid international domain name"
  | .badPort => "invalid port number"
  | .badIpv4 => "invalid IPv4 address"
  | .badIpv6 => "invalid IPv6 address"
  | .badHostCharacter => "invalid domain character"
  | .relativeWithoutBase => "relative URL without a base"

end CodeGateway.Url
