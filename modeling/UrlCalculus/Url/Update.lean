import UrlCalculus.Url.Resolve

/-!
# Changing one part of a URL

Each function puts a new text in the place of one part. `none` means that the URL does not admit
that part, or that the text is not one; the caller then keeps the URL as it is. No function looks at
other parts than it says, with two exceptions: a new scheme drops a port that has become the default
one, and a new host may bring a port along.

Breaks are ignored in a new scheme, host, port, query or fragment; in credentials they are encoded
like other controls. In a new path they are treated as in a reference.
-/

namespace UrlCalculus

namespace Url

/-! ## The scheme -/

/-- A special scheme can only replace another special one, and the file scheme replaces none. The
text counts up to its first colon. -/
def setScheme (u : Url) (t : Text) : Option Url := do
  let scheme ← Scheme.ofText? (Text.withoutBreaks (Text.cut (· == ':') t).1)
  if scheme.isSpecial ≠ u.isSpecial ∨ scheme.isFile ∨ (scheme.isSpecial ∧ !u.hasHost) then none
  else
    some { u with
      scheme
      authority := u.authority.map fun a ↦ { a with port := withoutDefault scheme a.port } }

/-! ## Credentials -/

/-- Only a URL with a host that is not a file has credentials and a port. -/
def admitsCredentials (u : Url) : Bool := u.hasHost && !u.isFile

def updateAuthority (u : Url) (f : Authority → Authority) : Url :=
  { u with authority := u.authority.map f }

def setUsername (u : Url) (t : Text) : Option Url :=
  if u.admitsCredentials then
    some (u.updateAuthority fun a ↦ { a with username := Text.percentEncode .userinfo t })
  else
    none

def setPassword (u : Url) (t : Text) : Option Url :=
  if u.admitsCredentials then
    some (u.updateAuthority fun a ↦ { a with password := Text.percentEncode .userinfo t })
  else
    none

/-! ## The host and the port -/

/-- A port, if the text begins with one; what follows it is ignored. No text at all is no port. -/
def readNewPort (scheme : Scheme) (t : Text) : Option (Option PortNumber) :=
  match readPortDigits t with
  | .ok (some p, _) => some (withoutDefault scheme (some p))
  | .ok (none, []) => some none
  | .ok (none, _) => none
  | .error _ => none

/-- A host, and a port if one follows it. -/
def readNewHost (u : Url) (t : Text) : Option (Host × Option (Option PortNumber)) :=
  if u.isFile then
    match readFileHost (splitFileHost t).1 with
    | .ok host => some (host, none)
    | .error _ => none
  else
    match readHost u.scheme t with
    | .ok (host, ':' :: rest) =>
      some (host, if rest.isEmpty then none else readNewPort u.scheme rest)
    | .ok (host, _) => some (host, none)
    | .error _ => none

/-- Put a host in place, and a port along with it. -/
def putHost (u : Url) (host : Host) (port : Option (Option PortNumber)) : Url :=
  let a := u.authority.getD (.ofHost .none)
  { u with
    authority := some { a with host, port := port.getD a.port }
    dotMark := u.dotMark && port.isNone }

/-- A URL with a user name or a port needs a host. -/
def needsHost (u : Url) (port : Option (Option PortNumber)) : Bool :=
  match u.authority with
  | none => port.join.isSome
  | some a => !a.username.isEmpty || a.port.isSome || port.join.isSome

def setHost (u : Url) (t : Text) : Option Url :=
  if u.path.isRootless then none
  else
    match u.readNewHost (Text.withoutBreaks t) with
    | some (host, port) =>
      if host.isNone && u.needsHost port then none else some (u.putHost host port)
    | none => none

/-- Put a port in place; the mark in front of the path goes when the port is written anew. -/
def putPort (u : Url) (port : Option PortNumber) : Url :=
  let old := u.authority.bind Authority.port
  { u.updateAuthority fun a ↦ { a with port } with dotMark := u.dotMark && old == port }

def setPort (u : Url) (t : Text) : Option Url :=
  if u.admitsCredentials then
    (readNewPort u.scheme (Text.withoutBreaks t)).map u.putPort
  else
    none

/-! ## The path -/

/-- The path of a text that begins with a separator, or of no text at all. -/
def replacePath (u : Url) (t : Text) : Url :=
  { u with path := pathAfterAuthority u.scheme t }

/-- A path that does not begin with a separator gets a slash in front, unless it is empty and the
URL can do without a path. -/
def setPath (u : Url) (t : Text) : Option Url :=
  if u.path.isRootless then none
  else
    match t with
    | [] => some (u.replacePath (if u.isSpecial || !u.hasHost then ['/'] else []))
    | c :: _ =>
      if isPathSeparator u.isSpecial c then some (u.replacePath t)
      else some (u.replacePath ('/' :: t))

/-! ## The query and the fragment -/

/-- Without a query and a fragment behind it a rootless path does not end in spaces. -/
def stripPath (u : Url) : Url :=
  match u.path, u.query, u.fragment with
  | .rootless t, none, none =>
    { u with path := .rootless (t.reverse.dropWhile (· == ' ')).reverse }
  | _, _, _ => u

/-- An empty text removes the query; one question mark in front does not count. -/
def setQuery (u : Url) (t : Text) : Url :=
  match t with
  | [] => stripPath { u with query := none }
  | t =>
    { u with
      query := some (Text.percentEncode (querySet u.scheme)
        (Text.withoutBreaks (Text.dropOne (· == '?') t))) }

/-- An empty text removes the fragment; one number sign in front does not count. -/
def setFragment (u : Url) (t : Text) : Url :=
  match t with
  | [] => stripPath { u with fragment := none }
  | t =>
    { u with
      fragment := some (Text.percentEncode .fragment
        (Text.withoutBreaks (Text.dropOne (· == '#') t))) }

end Url

end UrlCalculus
