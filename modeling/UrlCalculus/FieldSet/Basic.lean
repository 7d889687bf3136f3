import UrlCalculus.Decode

/-!
# Field sets

The parts of a URL by name, each of which may be absent. A field set is built field by field, read
from JSON, and written to JSON without its absent fields. The host is the hostname unless that is
absent or empty.

Search parameters are a list of pairs, so names may repeat. Their written form is an object, which
keeps only the last pair of a name.
-/

namespace UrlCalculus

/-- A port as it is given: a JSON number or a text. -/
inductive Port where
  | number (value : Number)
  | text (value : String)
deriving DecidableEq

namespace Port

def toString : Port → String
  | .number n => n.text
  | .text s => s

def toValue : Port → Value
  | .number n => .number n
  | .text s => .string s

def decode : Decoder Port
  | .number n => .ok (.number n)
  | .string s => .ok (.text s)
  | _ => .error (.noVariant "Port")

end Port

structure FieldSet where
  protocol : Option String := none
  username : Option String := none
  password : Option String := none
  host : Option String := none
  hostname : Option String := none
  port : Option Port := none
  pathname : Option String := none
  search : Option String := none
  searchParams : Option (List (String × String)) := none
  hash : Option String := none
deriving DecidableEq

namespace FieldSet

def empty : FieldSet := {}

/-! ## Building -/

def withProtocol (value : String) (f : FieldSet) : FieldSet := { f with protocol := some value }

def withUsername (value : String) (f : FieldSet) : FieldSet := { f with username := some value }

def withPassword (value : String) (f : FieldSet) : FieldSet := { f with password := some value }

def withHost (value : String) (f : FieldSet) : FieldSet := { f with host := some value }

def withHostname (value : String) (f : FieldSet) : FieldSet := { f with hostname := some value }

def withPort (value : Port) (f : FieldSet) : FieldSet := { f with port := some value }

def withPathname (value : String) (f : FieldSet) : FieldSet := { f with pathname := some value }

def withSearch (value : String) (f : FieldSet) : FieldSet := { f with search := some value }

def withHash (value : String) (f : FieldSet) : FieldSet := { f with hash := some value }

/-- Add a search parameter behind those that are there. -/
def withSearchParam (name value : String) (f : FieldSet) : FieldSet :=
  { f with searchParams := some (f.searchParams.getD [] ++ [(name, value)]) }

/-- The hostname if it is not empty, else the host if that is not empty. -/
def resolvedHost? (f : FieldSet) : Option String :=
  (f.hostname.filter (· ≠ "")).orElse fun _ ↦ f.host.filter (· ≠ "")

/-! ## JSON -/

/-- The names of the fields, in the order of declaration. -/
def fieldNames : List String :=
  ["protocol", "username", "password", "host", "hostname", "port", "pathname", "search",
    "searchParams", "hash"]

/-- Search parameters as an object; a later pair takes the place of an earlier one. -/
def paramsValue (pairs : List (String × String)) : Value :=
  .object (Entries.ofPairs (pairs.map fun (name, value) ↦ (name, .string value)))

/-- The entries of a field, none if it is absent. -/
def entry {α : Type} (name : String) (toValue : α → Value) : Option α → Entries
  | none => []
  | some a => [(name, toValue a)]

/-- The fields that are there, in the order of declaration. -/
def toValue (f : FieldSet) : Value :=
  .object
    (entry "protocol" .string f.protocol ++ entry "username" .string f.username ++
      entry "password" .string f.password ++ entry "host" .string f.host ++
      entry "hostname" .string f.hostname ++ entry "port" Port.toValue f.port ++
      entry "pathname" .string f.pathname ++ entry "search" .string f.search ++
      entry "searchParams" paramsValue f.searchParams ++ entry "hash" .string f.hash)

/-- The text of a search parameter; scalars that are no strings are written out. -/
def decodeParam (name : String) : Decoder String
  | .string s => .ok s
  | .number n => .ok n.text
  | .bool b => .ok (if b then "true" else "false")
  | .null => .ok "null"
  | .array _ => .error (.nonScalarParameter name)
  | .object _ => .error (.nonScalarParameter name)

/-- Search parameters, in the order of their entries. -/
def decodeParams : Decoder (List (String × String))
  | .object entries => entries.mapM fun (name, value) ↦ do return (name, ← decodeParam name value)
  | v => .error (.invalidType v "an object of query parameters")

/-- Take over an entry. Null leaves a field absent, and other names do not matter. -/
def readEntry (f : FieldSet) (entry : String × Value) : Except DecodeError FieldSet :=
  let text := Decoder.optional Decoder.string entry.2
  match entry.1 with
  | "protocol" => text.map fun t ↦ { f with protocol := t }
  | "username" => text.map fun t ↦ { f with username := t }
  | "password" => text.map fun t ↦ { f with password := t }
  | "host" => text.map fun t ↦ { f with host := t }
  | "hostname" => text.map fun t ↦ { f with hostname := t }
  | "port" => (Decoder.optional Port.decode entry.2).map fun p ↦ { f with port := p }
  | "pathname" => text.map fun t ↦ { f with pathname := t }
  | "search" => text.map fun t ↦ { f with search := t }
  | "searchParams" =>
    (Decoder.optional decodeParams entry.2).map fun ps ↦ { f with searchParams := ps }
  | "hash" => text.map fun t ↦ { f with hash := t }
  | _ => .ok f

/-- Read a field set. Of an array, the missing items at the end are absent fields. -/
def decode : Decoder FieldSet
  | .object entries => entries.foldlM readEntry empty
  | .array items => do
    let f ← (fieldNames.zip items).foldlM readEntry empty
    if fieldNames.length < items.length then
      throw (.invalidLength items.length "fewer elements in array")
    return f
  | v => .error (.invalidType v "struct UrlInput")

end FieldSet

/-- Where a URL comes from: a text, or fields. -/
inductive Source where
  | raw (text : String)
  | fields (fields : FieldSet)
deriving DecidableEq

namespace Source

def decode : Decoder Source
  | .string s => .ok (.raw s)
  | v =>
    match FieldSet.decode v with
    | .ok f => .ok (.fields f)
    | .error _ => .error (.noVariant "UrlSource")

end Source

end UrlCalculus
