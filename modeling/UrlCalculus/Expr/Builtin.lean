import UrlCalculus.Expr.Criteria

/-!
# Operations on values

The operations that are about values of any sort: access to the subject, quotation, comparison,
connectives, tests on strings, and matching against criteria.
-/

namespace UrlCalculus

namespace Builtin

def anyValue : Parameter := ⟨"value", .any⟩

/-! ## The subject and quotation -/

def value : Handler := fun arguments context _ ↦
  match stringArgument? arguments 0 with
  | some path => .ok ((context.subject.resolve? path).getD .null)
  | none => .ok context.subject

def literal : Handler := fun arguments _ _ ↦
  .ok (argumentOrNull arguments 0)

/-! ## Comparison -/

def equal : Handler := fun arguments _ _ ↦
  .ok (.bool ((argumentOrNull arguments 0).same (argumentOrNull arguments 1)))

def unequal : Handler := fun arguments _ _ ↦
  .ok (.bool (!(argumentOrNull arguments 0).same (argumentOrNull arguments 1)))

def member : Handler := fun arguments _ _ ↦
  let items := ((argument? arguments 0).bind Value.asArray?).getD []
  .ok (.bool (items.any fun item ↦ item.same (argumentOrNull arguments 1)))

/-! ## Connectives -/

def negation : Handler := fun arguments _ _ ↦
  .ok (.bool (!(argumentOrNull arguments 0).truthy))

def existence : Handler := fun arguments _ _ ↦
  .ok (.bool (!(argumentOrNull arguments 0).isNull))

/-- Evaluate in order until a result is not truthy. -/
def allTruthy (evaluate : Value → Except Error Value) : List Value → Except Error Bool
  | [] => .ok true
  | e :: rest => do
    if (← evaluate e).truthy then allTruthy evaluate rest else return false

/-- Evaluate in order until a result is truthy. -/
def anyTruthy (evaluate : Value → Except Error Value) : List Value → Except Error Bool
  | [] => .ok false
  | e :: rest => do
    if (← evaluate e).truthy then return true else anyTruthy evaluate rest

/-- The expressions in the first argument. -/
def expressions (arguments : Arguments) : List Value :=
  ((argument? arguments 0).bind Value.asArray?).getD []

def conjunction : Handler := fun arguments context evaluator ↦ do
  return .bool (← allTruthy (evaluator.evaluate context.descend) (expressions arguments))

def disjunction : Handler := fun arguments context evaluator ↦ do
  return .bool (← anyTruthy (evaluator.evaluate context.descend) (expressions arguments))

/-! ## Strings -/

/-- A test of the second argument with the first; it fails unless both are strings. -/
def stringTest (test : Text → Text → Bool) : Handler := fun arguments _ _ ↦
  match stringArgument? arguments 0, stringArgument? arguments 1 with
  | some search, some value => .ok (.bool (test search.toList value.toList))
  | _, _ => .ok (.bool false)

/-! ## Criteria -/

def matching : Handler := fun arguments context evaluator ↦
  match (argument? arguments 0).bind Value.asObject? with
  | some criteria => do
    return .bool (← objectMatches criteria (argumentOrNull arguments 1) context evaluator)
  | none => .error (.invalidExpression "$objectMatches criteria must be an object")

/-! ## The table -/

def operations : List Operation :=
  [ (Operation.of "$value" [⟨"path", .optional .string⟩] value).withDefaultPlace none,
    ((Operation.of literalName [anyValue] literal).withDefaultPlace none).withRawArguments,
    .of "$eq" [⟨"compare", .any⟩, anyValue] equal,
    .of "$ne" [⟨"compare", .any⟩, anyValue] unequal,
    .of "$in" [⟨"array", .array⟩, anyValue] member,
    .of "$not" [anyValue] negation,
    .of "$exists" [anyValue] existence,
    (Operation.of "$and" [⟨"expressions", .array⟩] conjunction).withDefaultPlace none,
    (Operation.of "$or" [⟨"expressions", .array⟩] disjunction).withDefaultPlace none,
    .of "$stringStartsWith" [⟨"search", .string⟩, anyValue] (stringTest List.isPrefixOf),
    .of "$stringEndsWith" [⟨"search", .string⟩, anyValue] (stringTest List.isSuffixOf),
    .of "$stringIncludes" [⟨"search", .string⟩, anyValue] (stringTest Text.includes),
    .of objectMatchesName [⟨"criteria", .objectOf .any⟩, anyValue] matching ]

end Builtin

end UrlCalculus
