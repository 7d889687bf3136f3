import UrlCalculus.Text.Pieces

/-!
# Schemes

A scheme is kept in lower case and without its colon. Six schemes are special: they always have an
authority, a backslash separates their path segments as a slash does, and five of them have a
default port. The sixth is the file scheme, which has neither port nor credentials.
-/

namespace UrlCalculus

/-- A port that is written out. -/
abbrev PortNumber := Fin 65536

abbrev Scheme := Text

namespace Scheme

def file : Scheme := ['f', 'i', 'l', 'e']

/-- The special schemes that name hosts on a network, with their default ports. -/
def networkSchemes : List (Scheme × PortNumber) :=
  [ ("http".toList, 80), ("https".toList, 443), ("ws".toList, 80), ("wss".toList, 443),
    ("ftp".toList, 21) ]

def defaultPort? (s : Scheme) : Option PortNumber :=
  networkSchemes.lookup s

def isFile (s : Scheme) : Bool := s == file

def isSpecial (s : Scheme) : Bool := isFile s || (defaultPort? s).isSome

/-- Whether a character can stand in a scheme behind the first one. -/
def isSchemeChar (c : Char) : Bool :=
  c.isAlphanum || c == '+' || c == '-' || c == '.'

/-- A text that is a scheme as a whole, in lower case. -/
def ofText? (t : Text) : Option Scheme :=
  match t with
  | [] => none
  | c :: _ => if c.isAlpha && t.all isSchemeChar then some (t.map Char.toLower) else none

end Scheme

end UrlCalculus
