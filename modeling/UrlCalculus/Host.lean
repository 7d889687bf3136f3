import UrlCalculus.Error
import UrlCalculus.Host.Domain
import UrlCalculus.Host.Ipv4
import UrlCalculus.Host.Ipv6

/-!
# Hosts

A host is a name or an address. In a special URL a name is percent-decoded and taken to ASCII, and
a name that ends in a number is an IPv4 address; elsewhere a name is kept as it is written. Only
outside special URLs can a name be empty, and then the URL has no host to speak of.
-/

namespace UrlCalculus

inductive Host where
  | name (text : Text)
  | ipv4 (address : Ipv4)
  | ipv6 (address : Ipv6)
deriving DecidableEq

namespace Host

/-- The host of a URL that has none. -/
def none : Host := .name []

def isNone (h : Host) : Bool := h = none

def text : Host → Text
  | .name t => t
  | .ipv4 a => a.text
  | .ipv6 a => '[' :: a.text ++ [']']

/-- A host that begins with a bracket. -/
def bracketed (t : Text) : Except UrlError Host :=
  match t.getLast?, Ipv6.parse? (t.drop 1).dropLast with
  | some ']', some a => .ok (.ipv6 a)
  | _, _ => .error .invalidIpv6Address

/-- The host of a special URL. -/
def special (t : Text) : Except UrlError Host :=
  if t.head? = some '[' then bracketed t
  else
    match (Text.ofUtf8? (Text.percentDecode t)).bind Domain.toAscii? with
    | .none => .error .idna
    | some [] => .error .emptyHost
    | some domain =>
      if Ipv4.endsInNumber domain then
        match Ipv4.parse? domain with
        | some a => .ok (.ipv4 a)
        | .none => .error .invalidIpv4Address
      else .ok (.name domain)

/-- Characters that no host may contain as they are. -/
def forbidden (c : Char) : Bool :=
  ['\x00', '\t', '\n', '\r', ' ', '#', '/', ':', '<', '>', '?', '@', '[', '\\', ']', '^', '|']
    |>.contains c

/-- The host of a URL that is not special. -/
def nonspecial (t : Text) : Except UrlError Host :=
  if t.head? = some '[' then bracketed t
  else if t.any forbidden then .error .invalidDomainCharacter
  else .ok (.name (Text.percentEncode .controls t))

end Host

end UrlCalculus
