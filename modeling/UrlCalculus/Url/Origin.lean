import UrlCalculus.Url.Resolve

/-!
# Origins

A URL on a network has its scheme, host and port as its origin. A blob URL has the origin of the URL
that is its path. All other origins are opaque and are written `null`.
-/

namespace UrlCalculus

namespace Url

/-- The scheme, the host and the port that is not the default. -/
def networkOrigin? (u : Url) : Option Text :=
  if u.scheme.defaultPort?.isSome then
    u.authority.map fun a ↦ u.scheme ++ "://".toList ++ a.hostPortText
  else
    none

/-- The origin, looking into at most `limit` blob URLs. -/
def originWithin? (u : Url) : Nat → Option Text
  | 0 => u.networkOrigin?
  | limit + 1 =>
    if u.scheme = "blob".toList then
      match parse none u.path.text with
      | .ok inner => inner.originWithin? limit
      | .error _ => none
    else
      u.networkOrigin?

/-- The origin; every blob URL inside another one is shorter. -/
def originText (u : Url) : Text :=
  (u.originWithin? u.path.text.length).getD "null".toList

end Url

end UrlCalculus
