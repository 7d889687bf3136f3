import UrlCalculus.Text.Breaks
import UrlCalculus.Url.Scheme

/-!
# References

The first look at a text that is to become a URL cuts it into a scheme, if there is one, a body, a
query and a fragment. The fragment begins at the first `#` and the query at the first `?` in front
of it, whatever the body is. The body keeps its breaks, since in a file URL one of them can part a
drive from what follows; everything else is read without them.
-/

namespace UrlCalculus

structure Reference where
  scheme : Option Scheme
  body : Text
  query : Option Text
  fragment : Option Text
deriving DecidableEq

namespace Text

/-- Remove the characters at both ends that satisfy `p`. -/
def trim (p : Char → Bool) (t : Text) : Text :=
  ((t.dropWhile p).reverse.dropWhile p).reverse

def isControlOrSpace (c : Char) : Bool := c.toNat ≤ 0x20

end Text

namespace Reference

/-- The scheme in front of the first colon, if there is one, and what follows it. -/
def splitScheme (t : Text) : Option Scheme × Text :=
  match Text.cut (· == ':') t with
  | (_, none) => (none, t)
  | (front, some rest) =>
    match Scheme.ofText? (Text.withoutBreaks front) with
    | none => (none, t)
    | some s => (some s, rest)

def ofText (t : Text) : Reference :=
  let (scheme, rest) := splitScheme (Text.trim Text.isControlOrSpace t)
  let (front, fragment) := Text.cut (· == '#') rest
  let (body, query) := Text.cut (· == '?') front
  { scheme, body
    query := query.map Text.withoutBreaks
    fragment := fragment.map Text.withoutBreaks }

/-- The reference with a body without breaks. -/
def plain (r : Reference) : Reference := { r with body := Text.withoutBreaks r.body }

/-- Whether a reference is a fragment alone. -/
def isFragmentOnly (r : Reference) : Bool :=
  r.plain.body.isEmpty && r.query.isNone && r.fragment.isSome

end Reference

end UrlCalculus
