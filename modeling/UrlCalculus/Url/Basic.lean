import UrlCalculus.Host
import UrlCalculus.Url.Path
import UrlCalculus.Url.Scheme

/-!
# URLs

A URL in its parts. The text of the parts is already encoded, so that writing a URL down is putting
its parts together.

## The written form

Between a missing authority and a path that begins with two slashes stands `/.`, so that the path is
not taken for an authority. The mark stays in place when an authority is put in front of it later,
which is why it is a part of its own.
-/

namespace UrlCalculus

structure Authority where
  username : Text
  password : Text
  host : Host
  port : Option PortNumber
deriving DecidableEq

structure Url where
  scheme : Scheme
  authority : Option Authority
  /-- Whether `/.` is written in front of the path. -/
  dotMark : Bool
  path : Path
  query : Option Text
  fragment : Option Text
deriving DecidableEq

namespace Authority

/-- An authority that consists of a host. -/
def ofHost (host : Host) : Authority := ⟨[], [], host, none⟩

/-- The user name and the password, up to the at sign. -/
def credentialsText (a : Authority) : Text :=
  if a.username.isEmpty && a.password.isEmpty then []
  else a.username ++ (if a.password.isEmpty then [] else ':' :: a.password) ++ ['@']

def portText (a : Authority) : Text :=
  match a.port with
  | none => []
  | some p => Text.decimal p

def hostPortText (a : Authority) : Text :=
  a.host.text ++ (if a.port.isSome then ':' :: a.portText else [])

def text (a : Authority) : Text :=
  a.credentialsText ++ a.hostPortText

end Authority

namespace Url

/-! ## Parts -/

def isSpecial (u : Url) : Bool := u.scheme.isSpecial

def isFile (u : Url) : Bool := u.scheme.isFile

def host (u : Url) : Host :=
  match u.authority with
  | none => .none
  | some a => a.host

def hasHost (u : Url) : Bool := !u.host.isNone

/-- The query set for the scheme of a URL. -/
def querySet (s : Scheme) : EncodeSet :=
  if s.isSpecial then .specialQuery else .query

/-! ## The written form -/

/-- Whether a path needs the mark in front of it where there is no authority. -/
def needsDotMark (authority : Option Authority) (path : Path) : Bool :=
  authority.isNone && path.beginsWithTwoSlashes

def authorityText (u : Url) : Text :=
  match u.authority with
  | none => []
  | some a => '/' :: '/' :: a.text

def queryText (u : Url) : Text :=
  match u.query with
  | none => []
  | some q => '?' :: q

def fragmentText (u : Url) : Text :=
  match u.fragment with
  | none => []
  | some f => '#' :: f

def text (u : Url) : Text :=
  u.scheme ++ ':' :: u.authorityText ++ (if u.dotMark then ['/', '.'] else []) ++ u.path.text ++
    u.queryText ++ u.fragmentText

/-- The URL as a string. -/
def href (u : Url) : String := String.ofList u.text

end Url

end UrlCalculus
