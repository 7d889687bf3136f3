import UrlCalculus.Decode
import UrlCalculus.SearchParams
import UrlCalculus.Url.Origin

/-!
# Records

A URL taken apart into strings: the whole, its origin, and its components in the form in which they
are shown, with their delimiters. The query is there twice, as a text and as a map. A component is
looked up by its name, and a search parameter by the name behind `searchParams.`, whatever that
name contains.
-/

namespace UrlCalculus

structure Record where
  href : String
  origin : String
  protocol : String
  username : String
  password : String
  host : String
  hostname : String
  port : String
  pathname : String
  search : String
  searchParams : SearchParams
  hash : String
deriving DecidableEq

namespace Record

def empty : Record :=
  ⟨"", "", "", "", "", "", "", "", "", "", .empty, ""⟩

/-! ## The record of a URL -/

/-- A query or a fragment with its delimiter; an empty one is not shown. -/
def shownWith (delimiter : Char) : Option Text → Text
  | none => []
  | some [] => []
  | some t => delimiter :: t

def ofUrl (u : Url) : Record :=
  let part (f : Authority → Text) := String.ofList ((u.authority.map f).getD [])
  { href := u.href
    origin := String.ofList u.originText
    protocol := String.ofList (u.scheme ++ [':'])
    username := part Authority.username
    password := part Authority.password
    host := part Authority.hostPortText
    hostname := String.ofList u.host.text
    port := part Authority.portText
    pathname := String.ofList u.path.text
    search := String.ofList (shownWith '?' u.query)
    searchParams := .ofQuery (u.query.getD [])
    hash := String.ofList (shownWith '#' u.fragment) }

/-- The record of the URL that a string denotes. -/
def parse (s : String) : Except UrlError Record := do
  return ofUrl (← Url.ofString s)

/-! ## Look-up -/

/-- The names of the fields, in the order of declaration. -/
def fieldNames : List String :=
  ["href", "origin", "protocol", "username", "password", "host", "hostname", "port", "pathname",
    "search", "searchParams", "hash"]

/-- The component with a name. -/
def component? (r : Record) (name : String) : Option String :=
  match name with
  | "href" => some r.href
  | "origin" => some r.origin
  | "protocol" => some r.protocol
  | "username" => some r.username
  | "password" => some r.password
  | "host" => some r.host
  | "hostname" => some r.hostname
  | "port" => some r.port
  | "pathname" => some r.pathname
  | "search" => some r.search
  | "hash" => some r.hash
  | _ => none

/-- The component at a path; behind a dot stands the name of a search parameter. -/
def get? (r : Record) (path : String) : Option String :=
  match Text.cut (· == '.') path.toList with
  | (_, none) => r.component? path
  | (front, some name) =>
    if String.ofList front = "searchParams" then r.searchParams.get? (String.ofList name) else none

/-! ## JSON -/

/-- The search parameters as an object. -/
def searchParamsValue (r : Record) : Value :=
  .object (r.searchParams.entries.map fun (name, value) ↦ (name, .string value))

/-- The record as an object, its fields in the order of declaration. -/
def toValue (r : Record) : Value :=
  .object
    [ ("href", .string r.href), ("origin", .string r.origin), ("protocol", .string r.protocol),
      ("username", .string r.username), ("password", .string r.password), ("host", .string r.host),
      ("hostname", .string r.hostname), ("port", .string r.port),
      ("pathname", .string r.pathname), ("search", .string r.search),
      ("searchParams", r.searchParamsValue), ("hash", .string r.hash) ]

/-- Read a map of search parameters. -/
def decodeParams : Decoder SearchParams
  | .object entries =>
    entries.foldlM (fun params (name, value) ↦ do
      return params.insert name (← Decoder.string value)) .empty
  | v => .error (.invalidType v "a map")

/-- Whether the value of an entry fits its field; entries with other names do not matter. -/
def checkEntry (entry : String × Value) : Except DecodeError Unit :=
  if entry.1 = "searchParams" then (decodeParams entry.2).map fun _ ↦ ()
  else if entry.1 ∈ fieldNames then (Decoder.string entry.2).map fun _ ↦ ()
  else .ok ()

/-- The value of a field that has to be there. -/
def field (entries : Entries) (name : String) : Except DecodeError Value :=
  match Entries.get? entries name with
  | some v => .ok v
  | none => .error (.missingField name)

def textField (entries : Entries) (name : String) : Except DecodeError String :=
  field entries name >>= Decoder.string

def ofEntries (entries : Entries) : Except DecodeError Record := do
  entries.forM checkEntry
  return {
    href := ← textField entries "href"
    origin := ← textField entries "origin"
    protocol := ← textField entries "protocol"
    username := ← textField entries "username"
    password := ← textField entries "password"
    host := ← textField entries "host"
    hostname := ← textField entries "hostname"
    port := ← textField entries "port"
    pathname := ← textField entries "pathname"
    search := ← textField entries "search"
    searchParams := ← field entries "searchParams" >>= decodeParams
    hash := ← textField entries "hash" }

/-- Read a record. -/
def decode : Decoder Record
  | .object entries => ofEntries entries
  | .array items => do
    let entries := fieldNames.zip items
    entries.forM checkEntry
    if items.length < fieldNames.length then
      throw (.invalidLength items.length "struct SerializableUrl with 12 elements")
    let r ← ofEntries entries
    if fieldNames.length < items.length then
      throw (.invalidLength items.length "fewer elements in array")
    return r
  | v => .error (.invalidType v "struct SerializableUrl")

end Record

end UrlCalculus
