import Rehearsal.Domain.Name
import Rehearsal.Text.Percent
import Rehearsal.Url.Address

/-!
# Hosts

The host of a URL in the one way in which it is written: names of domains in
lower case and in ASCII, numeric addresses in full.
-/

namespace Rehearsal.Url

open Text

namespace Host

/-- Characters that no host has. -/
def forbiddenEverywhere : List Char := "#/:<>?@[\\]^| ".toList ++ ['\x00', '\t', '\n', '\r']

/-- The name of a domain. -/
def domain (s : List Char) : Except Fault (List Char) :=
  match (Utf8.decode? (Percent.decode s)).bind Domain.written? with
  | some name => .ok name
  | none => .error .domainName

/-- An address in brackets, if the host begins with one. -/
def bracketed? (s : List Char) : Option (Except Fault (List Char)) :=
  match s with
  | '[' :: rest =>
    some (match rest.getLast? with
      | some ']' => (Ipv6.parse rest.dropLast).map Ipv6.text
      | _ => .error .ipv6)
  | _ => none

/-- The host of a scheme with domains. -/
def ofDomain (s : List Char) : Except Fault String :=
  match bracketed? s with
  | some address => address.map String.ofList
  | none => do
    let name ← domain s
    if name.isEmpty then throw .emptyHost
    if Ipv4.isMeant name then return String.ofList (Ipv4.text (← Ipv4.parse name))
    return String.ofList name

/-- The host of any other scheme, which is not interpreted. -/
def ofAny (s : List Char) : Except Fault String :=
  match bracketed? s with
  | some address => address.map String.ofList
  | none =>
    if s.any forbiddenEverywhere.contains then .error .hostCharacter
    else .ok (String.ofList (Percent.encode [] s))

end Host
end Rehearsal.Url
