import UrlCalculus.Config
import UrlCalculus.FieldSet.Basic
import UrlCalculus.Text.Form
import UrlCalculus.Url.Update

/-!
# Applying a field set

The fields of a set are put into a URL one after the other, in a fixed order: the scheme first,
since it decides what the others mean, and the credentials before the host. A field that the URL
does not take leaves it as it is, whatever the reason. A field set without a host is refused before
anything else is looked at.

A search given as parameters wins over one given as text. An empty fragment is not applied.
-/

namespace UrlCalculus

namespace Url

/-- Change a URL by a field that may be absent; a URL that does not take it stays as it is. -/
def tryField (set : Url → Text → Option Url) (field : Option String) (u : Url) : Url :=
  match field with
  | none => u
  | some s => (set u s.toList).getD u

end Url

namespace FieldSet

/-- The query that search parameters stand for. -/
def encodedParams (pairs : List (String × String)) : Text :=
  Text.formEncode (pairs.map fun (name, value) ↦ (name.toList, value.toList))

def applySearch (f : FieldSet) (u : Url) : Url :=
  match f.searchParams, f.search with
  | some pairs, _ => u.setQuery (encodedParams pairs)
  | none, some search => u.setQuery search.toList
  | none, none => u

def applyHash (f : FieldSet) (u : Url) : Url :=
  match f.hash with
  | none => u
  | some "" => u
  | some hash => u.setFragment hash.toList

/-- Put all fields into a URL, the host being the given one. -/
def applyTo (f : FieldSet) (host : String) (u : Url) : Url :=
  let u := u.tryField Url.setScheme f.protocol
  let u := u.tryField Url.setUsername f.username
  let u := u.tryField Url.setPassword f.password
  let u := u.tryField Url.setHost (some host)
  let u := u.tryField Url.setPort (f.port.map Port.toString)
  let u := u.tryField Url.setPath f.pathname
  f.applyHash (f.applySearch u)

/-- The URL that the fields make of a base. -/
def update (f : FieldSet) (base : String) : Except Error String :=
  match f.resolvedHost? with
  | none => .error .missingHost
  | some host =>
    match Url.ofString base with
    | .error e => .error (.url e)
    | .ok u => .ok (f.applyTo host u).href

/-- The URL that the fields make by themselves. -/
def build (f : FieldSet) : Except Error String :=
  f.update standardBase

end FieldSet

/-- The URL of a source. A base completes a text; fields are put into the default base. -/
def Source.href (source : Source) (base : Option String) (defaultBase : String) :
    Except Error String :=
  match source with
  | .raw text => (resolve text base).mapError .url
  | .fields f => f.update defaultBase

end UrlCalculus
