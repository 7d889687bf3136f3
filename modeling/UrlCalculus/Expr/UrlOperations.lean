import UrlCalculus.Expr.Criteria
import UrlCalculus.FieldSet.Apply
import UrlCalculus.Record

/-!
# Operations on URLs

The operations that resolve or build a URL, take one apart, match one against criteria and change
one. A URL meets criteria when its record does; the record is matched by the operation that matches
any value, called through the evaluator, so an evaluator without it decides otherwise.
-/

namespace UrlCalculus

/-- Whether the record of a URL meets criteria. -/
def urlMatches (criteria : Entries) (url : String) (evaluator : Evaluator) (context : Context) :
    Except Error Bool := do
  let record ← (Record.parse url).mapError .url
  let verdict ← evaluator.evaluate (context.withSubject record.toValue)
    (.array [.string objectMatchesName, .object criteria])
  return verdict.truthy

namespace UrlOperation

def urlName : String := "$url"

def parseName : String := "$urlParse"

def matchesName : String := "$urlMatches"

def setName : String := "$urlSet"

/-- What a field set has to look like as an argument. -/
def fieldSetSpec : Spec :=
  let text := Spec.optional .string
  .object
    [ ("protocol", text), ("username", text), ("password", text), ("host", text),
      ("hostname", text), ("port", .oneOf [.string, .number, .undefined]), ("pathname", text),
      ("hash", text), ("search", text), ("searchParams", .optional (.objectOf .string)) ]

/-- The URL of a source, completed with a base or put into the default one. -/
def url : Handler := fun arguments _ evaluator ↦ do
  let source ← Source.decode.argument urlName "input" (argument? arguments 0)
  return .string (← source.href (stringArgument? arguments 1) evaluator.defaultBase)

def parse : Handler := fun arguments _ _ ↦ do
  let record ← (Record.parse ((stringArgument? arguments 0).getD "")).mapError .url
  return record.toValue

def matching : Handler := fun arguments context evaluator ↦
  match (argument? arguments 0).bind Value.asObject? with
  | some criteria => do
    return .bool
      (← urlMatches criteria ((stringArgument? arguments 1).getD "") evaluator context)
  | none => .error (.invalidExpression "$urlMatches criteria must be an object")

def set : Handler := fun arguments _ _ ↦ do
  let f ← FieldSet.decode.argument setName "input" (argument? arguments 0)
  return .string (← f.update ((stringArgument? arguments 1).getD ""))

def operations : List Operation :=
  [ (Operation.of urlName
      [⟨"input", .oneOf [.string, fieldSetSpec]⟩, ⟨"base", .optional .string⟩]
      url).withDefaultPlace (some 0),
    .of parseName [⟨"url", .string⟩] parse,
    .of matchesName [⟨"criteria", .objectOf .any⟩, ⟨"url", .string⟩] matching,
    .of setName [⟨"input", fieldSetSpec⟩, ⟨"url", .string⟩] set ]

end UrlOperation

end UrlCalculus
