/-!
# What is wrong with a URL

The faults for which a text is no absolute URL, and their wording.
-/

namespace Rehearsal.Url

/-- Why a text is no URL. -/
inductive Fault where
  /-- It has no scheme. -/
  | relative
  | emptyHost
  /-- The host is no name of a domain. -/
  | domainName
  /-- The host of a scheme without domains has a character that no host has. -/
  | hostCharacter
  | port
  | ipv4
  | ipv6
  deriving DecidableEq

def Fault.message : Fault → String
  | .relative => "relative URL without a base"
  | .emptyHost => "empty host"
  | .domainName => "invalid international domain name"
  | .hostCharacter => "invalid domain character"
  | .port => "invalid port number"
  | .ipv4 => "invalid IPv4 address"
  | .ipv6 => "invalid IPv6 address"

end Rehearsal.Url
