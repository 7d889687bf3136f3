import UrlCalculus.Host.Idna
import UrlCalculus.Text.Percent

/-!
# Domain names

The name of a special URL's host in ASCII. A name of plain ASCII labels is put into lower case;
every other name goes through the mapping of internationalized names. Either way some characters
are refused.
-/

namespace UrlCalculus

namespace Domain

/-- Characters that no domain name may contain. -/
def denied (c : Char) : Bool :=
  c.toNat ≤ 0x20 || c.toNat == 0x7F ||
    ['%', '#', '/', ':', '<', '>', '?', '@', '[', '\\', ']', '^', '|'].contains c

def lowerCase (t : Text) : Text := t.map Char.toLower

/-- Whether a name needs no mapping but lower case. -/
def isPlain (t : Text) : Bool :=
  Idna.isAscii t && (Idna.labels (lowerCase t)).all fun label ↦ !Idna.acePrefix.isPrefixOf label

/-- A name in ASCII, if it has such a form and no character of it is refused. -/
def toAscii? (t : Text) : Option Text := do
  let name ← if isPlain t then some (lowerCase t) else Idna.toAscii? t
  if name.any denied then none else some name

end Domain

end UrlCalculus
