import UrlCalculus.Url.Authority
import UrlCalculus.Url.Reference

/-!
# Resolving references

A reference becomes a URL by itself if it has a scheme, and otherwise with the help of a base. The
parts that a reference does not have come from the base; which ones these are depends on how its
body begins.

A reference with a special scheme counts as one without a scheme when the base has the same scheme
and fewer than two slashes follow. File references have rules of their own, since their hosts are
often absent and their paths may begin with a drive.
-/

namespace UrlCalculus

namespace Url

/-- A URL with the query and the fragment of a reference. -/
def complete (scheme : Scheme) (authority : Option Authority) (path : Path) (r : Reference) : Url :=
  { scheme, authority, path
    dotMark := needsDotMark authority path
    query := r.query.map (Text.percentEncode (querySet scheme))
    fragment := r.fragment.map (Text.percentEncode .fragment) }

/-- The base with the fragment of a reference, and with its query if it has one. -/
def copyBase (base : Url) (r : Reference) : Url :=
  { complete base.scheme base.authority base.path r with
    query :=
      match r.query with
      | none => base.query
      | some q => some (Text.percentEncode (querySet base.scheme) q) }

/-! ## Network and other URLs -/

/-- The path behind an authority. -/
def pathAfterAuthority (scheme : Scheme) (t : Text) : Path :=
  if !scheme.isSpecial && t.isEmpty then .segments []
  else
    .read scheme.isSpecial scheme.isFile []
      (Text.dropOne (isPathSeparator scheme.isSpecial) t)

/-- The URL of a reference whose authority begins at the given text. -/
def ofAuthority (scheme : Scheme) (t : Text) (r : Reference) : Except UrlError Url := do
  let (authority, rest) ← readAuthority scheme t (r.query.isSome || r.fragment.isSome)
  return complete scheme (some authority) (pathAfterAuthority scheme rest) r

/-- A reference without a scheme, or with that of its special base, to a URL that is not a file. -/
def relativeTo (base : Url) (r : Reference) : Except UrlError Url :=
  let special := base.scheme.isSpecial
  match r.body with
  | [] => .ok (copyBase base r)
  | c :: rest =>
    if isPathSeparator true c then
      match rest with
      | d :: tail =>
        if c = '/' ∧ d = '/' then ofAuthority base.scheme tail r
        else if isPathSeparator true d then
          ofAuthority base.scheme (tail.dropWhile (isPathSeparator true)) r
        else .ok (complete base.scheme base.authority (.read special false [] rest) r)
      | [] => .ok (complete base.scheme base.authority (.read special false [] rest) r)
    else
      .ok (complete base.scheme base.authority
        (.read special false base.path.segmentList.dropLast (c :: rest)) r)

/-- A reference with a special scheme that is not the file scheme, with a base of the same scheme if
there is one. -/
def ofSpecial (scheme : Scheme) (base : Option Url) (r : Reference) : Except UrlError Url :=
  let slashes := r.body.takeWhile (isPathSeparator true)
  let authority := r.body.dropWhile (isPathSeparator true)
  match base with
  | some base => if slashes.length < 2 then relativeTo base r else ofAuthority scheme authority r
  | none => ofAuthority scheme authority r

/-- A reference with a scheme that is not special. -/
def ofNonspecial (scheme : Scheme) (r : Reference) : Except UrlError Url :=
  match r.body with
  | '/' :: '/' :: rest => ofAuthority scheme rest r
  | '/' :: rest => .ok (complete scheme none (.read false false [] rest) r)
  | body => .ok (complete scheme none (.rootless (Text.percentEncode .controls body)) r)

/-! ## File URLs -/

/-- A file URL with a host, which may be none. -/
def ofFilePath (host : Host) (path : Path) (r : Reference) : Url :=
  complete .file (some (.ofHost host)) path r

/-- A file reference behind two slashes: a host, unless a drive stands in its place, and a path. A
drive that is settled at the root of the path leaves no host. -/
def ofFileAuthority (t : Text) (r : Reference) : Except UrlError Url := do
  let (hostText, rest) := splitFileHost t
  if hostText.isEmpty || Path.isDrive hostText then
    return ofFilePath .none (.read true true [] t) r
  else
    let host ← readFileHost hostText
    if host.isNone then
      return ofFilePath .none (.read true true [] rest) r
    else
      let pieces := Path.piecesOf true (Text.dropOne (isPathSeparator true) rest)
      let host := if Path.comesToDrive [] pieces then .none else host
      return ofFilePath host (Path.ofFileSegments (Path.walk true [] pieces)) r

/-- A file reference behind one slash. Unless its path begins with a drive, the drive or else the
host comes from the base. -/
def ofFileRoot (base : Option Url) (t : Text) (r : Reference) : Url :=
  match base with
  | none => ofFilePath .none (.read true true [] t) r
  | some base =>
    if Path.beginsWithDrive (Text.withoutBreaks t) then ofFilePath .none (.read true true [] t) r
    else
      match base.path.segmentList with
      | drive :: _ =>
        if Path.isNormalDrive drive then ofFilePath .none (.read true true [drive] t) r
        else ofFilePath base.host (.read true true [] t) r
      | [] => ofFilePath base.host (.read true true [] t) r

/-- A file reference, with a file URL as its base if there is one. -/
def ofFile (base : Option Url) (r : Reference) : Except UrlError Url :=
  match Text.next? r.body with
  | none =>
    match base with
    | some base => .ok (copyBase base r)
    | none => .ok (ofFilePath .none (.read true true [] []) r)
  | some (c, rest) =>
    if isPathSeparator true c then
      match Text.next? rest with
      | some (d, tail) =>
        if isPathSeparator true d then ofFileAuthority tail r else .ok (ofFileRoot base rest r)
      | none => .ok (ofFileRoot base rest r)
    else
      match base with
      | none => .ok (ofFilePath .none (.read true true [] r.body) r)
      | some base =>
        if Path.beginsWithDrive r.plain.body then
          .ok (ofFilePath .none (.read true true [] r.body) r)
        else
          .ok (ofFilePath base.host (.readFromFile base.path.segmentList r.body) r)

/-! ## Every reference -/

/-- The URL that a reference denotes, relative to a base if there is one. -/
def ofReference (base : Option Url) (r : Reference) : Except UrlError Url :=
  match r.scheme with
  | some scheme =>
    let sameScheme := base.filter fun b ↦ b.scheme == scheme
    if scheme.isFile then ofFile sameScheme r
    else if scheme.isSpecial then ofSpecial scheme sameScheme r.plain
    else ofNonspecial scheme r.plain
  | none =>
    match base with
    | none => .error .relativeUrlWithoutBase
    | some base =>
      if r.isFragmentOnly then .ok (copyBase base r)
      else if base.path.isRootless then .error .relativeUrlWithRootlessBase
      else if base.isFile then ofFile (some base) r
      else relativeTo base r.plain

/-- The URL that a text denotes, relative to a base if there is one. -/
def parse (base : Option Url) (t : Text) : Except UrlError Url :=
  ofReference base (Reference.ofText t)

/-- The URL that a string denotes by itself. -/
def ofString (s : String) : Except UrlError Url :=
  parse none s.toList

end Url

/-- The URL of a reference, relative to a base if one is given, as a string. -/
def resolve (reference : String) (base : Option String) : Except UrlError String := do
  match base with
  | none => return (← Url.ofString reference).href
  | some base =>
    let base ← Url.ofString base
    return (← Url.parse (some base) reference.toList).href

end UrlCalculus
