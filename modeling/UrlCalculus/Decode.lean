import UrlCalculus.Error
import UrlCalculus.Text.Quoted

/-!
# Reading typed values

Typed values are read from JSON values. What is wrong is said by the first fault: of an object, the
first entry in its own order whose value does not fit, and after that the first missing field in
the order of declaration; of an array, which lists the fields in that order, the first item that
does not fit, and after that a wrong length.
-/

namespace UrlCalculus

inductive DecodeError where
  /-- A value of another sort than the one named. -/
  | invalidType (found : Value) (expected : String)
  | missingField (name : String)
  | invalidLength (length : Nat) (expected : String)
  /-- A value that is none of the alternatives of a type. -/
  | noVariant (type : String)
  | nonScalarParameter (name : String)

/-- How a value of the wrong sort is shown. -/
def Value.description : Value → String
  | .null => "null"
  | .bool b => "boolean `" ++ (if b then "true" else "false") ++ "`"
  | .number (.binary x) => "floating point `" ++ x.text ++ "`"
  | .number n => "integer `" ++ n.text ++ "`"
  | .string s => "string " ++ String.ofList (Text.quote s.toList)
  | .array _ => "sequence"
  | .object _ => "map"

namespace DecodeError

def message : DecodeError → String
  | .invalidType found expected =>
    "invalid type: " ++ found.description ++ ", expected " ++ expected
  | .missingField name => "missing field `" ++ name ++ "`"
  | .invalidLength length expected =>
    "invalid length " ++ toString length ++ ", expected " ++ expected
  | .noVariant type => "data did not match any variant of untagged enum " ++ type
  | .nonScalarParameter name => "query parameter '" ++ name ++ "' must be a scalar value"

end DecodeError

/-- A function that reads a type from JSON. -/
abbrev Decoder (α : Type) := Value → Except DecodeError α

namespace Decoder

def string : Decoder String
  | .string s => .ok s
  | v => .error (.invalidType v "a string")

/-- Null is absence. -/
def optional {α : Type} (decode : Decoder α) : Decoder (Option α)
  | .null => .ok none
  | v => (decode v).map some

/-- A decoder for an argument of an operation. An absent argument is read as null. -/
def argument {α : Type} (decode : Decoder α) (operation parameter : String)
    (value : Option Value) : Except Error α :=
  (decode (value.getD .null)).mapError fun e ↦
    .argument { operation, parameter, expected := e.message, found := Kind.of value }

end Decoder

end UrlCalculus
