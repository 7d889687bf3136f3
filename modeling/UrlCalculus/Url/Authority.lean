import UrlCalculus.Url.Basic

/-!
# Reading an authority

The part of a URL behind two slashes: credentials up to the last at sign, a host, a port. It ends
where the path begins, at a slash or, in a special URL, a backslash. What is left over is returned
along with it.
-/

namespace UrlCalculus

/-- Whether a character separates the segments of a path. -/
def isPathSeparator (isSpecial : Bool) (c : Char) : Bool :=
  c == '/' || (isSpecial && c == '\\')

/-- Whether a character ends the authority, wherever it stands. -/
def endsAuthority (isSpecial : Bool) (c : Char) : Bool :=
  isPathSeparator isSpecial c || c == '?' || c == '#'

/-! ## Credentials -/

/-- Cut at the last at sign in front of the path. -/
def cutCredentials? (isSpecial : Bool) : Text → Option (Text × Text)
  | [] => none
  | c :: rest =>
    if endsAuthority isSpecial c then none
    else
      match cutCredentials? isSpecial rest with
      | some (front, back) => some (c :: front, back)
      | none => if c = '@' then some ([], rest) else none

/-- The user name and the password, encoded. -/
def readCredentials (t : Text) : Text × Text :=
  let (username, password) := Text.cut (· == ':') t
  (Text.percentEncode .userinfo username, Text.percentEncode .userinfo (password.getD []))

/-! ## The host -/

/-- The text of a host and what follows it. A colon ends a host outside brackets. -/
def splitHost (isSpecial inBrackets : Bool) : Text → Text × Text
  | [] => ([], [])
  | c :: rest =>
    if endsAuthority isSpecial c || (c == ':' && !inBrackets) then ([], c :: rest)
    else
      let inBrackets := if c = '[' then true else if c = ']' then false else inBrackets
      let (host, rest) := splitHost isSpecial inBrackets rest
      (c :: host, rest)

/-- The host at the front of a text, of a URL that is not a file URL. -/
def readHost (s : Scheme) (t : Text) : Except UrlError (Host × Text) := do
  let (host, rest) := splitHost s.isSpecial false t
  if s.isSpecial then
    if host.isEmpty then throw .emptyHost
    return (← Host.special host, rest)
  else
    return (← Host.nonspecial host, rest)

/-- The text of the host of a file URL, in which a colon has no meaning, and what follows it with
its breaks. -/
def splitFileHost (t : Text) : Text × Text :=
  (Text.withoutBreaks (t.takeWhile fun c ↦ !endsAuthority true c),
    t.dropWhile fun c ↦ !endsAuthority true c)

def localhost : Host := .name "localhost".toList

/-- The host of a file URL; the local one is none. -/
def readFileHost (t : Text) : Except UrlError Host := do
  let host ← Host.special t
  return if host = localhost then .none else host

/-! ## The port -/

/-- The number that leading digits denote, none if there are no digits; and what follows them. -/
def readPortDigits (t : Text) : Except UrlError (Option PortNumber × Text) :=
  match Text.number? 10 (t.takeWhile Char.isDigit) with
  | none => .ok (none, t)
  | some n =>
    if h : n < 65536 then .ok (some ⟨n, h⟩, t.dropWhile Char.isDigit) else .error .invalidPort

/-- A default port is not written. -/
def withoutDefault (s : Scheme) (port : Option PortNumber) : Option PortNumber :=
  if port = s.defaultPort? then none else port

/-- The port at the front of a text; only a path can follow it. -/
def readPort (s : Scheme) (t : Text) : Except UrlError (Option PortNumber × Text) := do
  let (port, rest) ← readPortDigits t
  match rest with
  | [] => return (withoutDefault s port, rest)
  | c :: _ =>
    if isPathSeparator true c then return (withoutDefault s port, rest) else throw .invalidPort

/-! ## The authority -/

/-- A host and a port. -/
def readHostPort (s : Scheme) (t : Text) :
    Except UrlError (Host × Option PortNumber × Text) := do
  let (host, rest) ← readHost s t
  match rest with
  | ':' :: rest =>
    if host.isNone then throw .emptyHost
    let (port, rest) ← readPort s rest
    return (host, port, rest)
  | _ => return (host, none, rest)

/-- The authority at the front of a text and the path behind it. `more` says whether anything
follows that path: an at sign cannot be the last but one thing in a URL. -/
def readAuthority (s : Scheme) (t : Text) (more : Bool) : Except UrlError (Authority × Text) := do
  match cutCredentials? s.isSpecial t with
  | none =>
    let (host, port, rest) ← readHostPort s t
    return (⟨[], [], host, port⟩, rest)
  | some (credentials, t) =>
    let pathNext := match t with
      | [] => more
      | c :: _ => isPathSeparator s.isSpecial c
    if credentials.isEmpty && pathNext then throw .emptyHost
    let (username, password) := readCredentials credentials
    let (host, port, rest) ← readHostPort s t
    if host.isNone && !(username.isEmpty && password.isEmpty) then throw .emptyHost
    return (⟨username, password, host, port⟩, rest)

end UrlCalculus
