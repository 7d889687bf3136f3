import UrlCalculus.Json.Value

/-!
# Types of arguments

A `Spec` describes a set of possibly absent values. Checking a value against it either succeeds or
points at one place inside the value: the path of keys to it, the spec that place should have met,
and the kind of what was found there.

## Which mismatch is reported

A union succeeds when one alternative does. When none does, the first alternative that failed below
the top is taken to be the intended one and its mismatch is reported; when all fail at the top, the
mismatch names the union.
-/

namespace UrlCalculus

inductive Spec where
  /-- Every value, and the absence of one. -/
  | any
  /-- Absence only. -/
  | undefined
  | string
  | number
  | boolean
  | array
  /-- An object whose listed fields, possibly absent, meet their specs. -/
  | object (fields : List (String × Spec))
  /-- An object all of whose entries meet one spec. -/
  | objectOf (entry : Spec)
  | oneOf (alternatives : List Spec)

/-- Where and how a value fails a spec. -/
structure Mismatch where
  path : List String
  expected : Spec
  found : Kind

namespace Mismatch

/-- The same mismatch seen from one level further out. -/
def under (key : String) (m : Mismatch) : Mismatch :=
  { m with path := key :: m.path }

end Mismatch

namespace Spec

def optional (s : Spec) : Spec := .oneOf [s, .undefined]

mutual

def label : Spec → String
  | .any => "any"
  | .undefined => "undefined"
  | .string => "string"
  | .number => "number"
  | .boolean => "boolean"
  | .array => "array"
  | .object _ => "object"
  | .objectOf entry => "object<" ++ label entry ++ ">"
  | .oneOf alternatives => labels alternatives

def labels : List Spec → String
  | [] => ""
  | [s] => label s
  | s :: rest => label s ++ " | " ++ labels rest

end

/-- The mismatch of a value that fails a spec as a whole. -/
def atTop (s : Spec) (value : Option Value) : Mismatch :=
  ⟨[], s, Kind.of value⟩

/-- Run a check on every entry, and report the first failure below its key. -/
def checkEntries (check : Value → Except Mismatch Unit) : Entries → Except Mismatch Unit
  | [] => .ok ()
  | (key, item) :: rest => do
    (check item).mapError (Mismatch.under key)
    checkEntries check rest

mutual

/-- Succeeds exactly on the members of the set that the spec describes. -/
def check : Spec → Option Value → Except Mismatch Unit
  | .any, _ => .ok ()
  | .undefined, none => .ok ()
  | .string, some (.string _) => .ok ()
  | .number, some (.number _) => .ok ()
  | .boolean, some (.bool _) => .ok ()
  | .array, some (.array _) => .ok ()
  | .object fields, some (.object entries) => checkFields fields entries
  | .objectOf entry, some (.object entries) =>
    checkEntries (fun item ↦ check entry (some item)) entries
  | .oneOf alternatives, value =>
    (checkAlternatives alternatives value).mapError fun deepest ↦
      deepest.getD (atTop (.oneOf alternatives) value)
  | s, value => .error (atTop s value)

/-- Check the listed fields in order. -/
def checkFields : List (String × Spec) → Entries → Except Mismatch Unit
  | [], _ => .ok ()
  | (name, s) :: rest, entries => do
    (check s (Entries.get? entries name)).mapError (Mismatch.under name)
    checkFields rest entries

/-- Try alternatives in order; a failure carries the first mismatch below the top. -/
def checkAlternatives : List Spec → Option Value → Except (Option Mismatch) Unit
  | [], _ => .error none
  | s :: rest, value =>
    match check s value with
    | .ok () => .ok ()
    | .error m =>
      (checkAlternatives rest value).mapError fun later ↦
        if m.path.isEmpty then later else some m

end

end Spec

end UrlCalculus
