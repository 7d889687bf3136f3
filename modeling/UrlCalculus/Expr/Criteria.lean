import UrlCalculus.Expr.Operation
import UrlCalculus.Json.Path

/-!
# Criteria

Criteria are pairs of a path and an expectation. A value meets them when, at every path, what stands
there meets the expectation; a path that leads nowhere leads to null. An expectation is a quoted
value or a plain one, which asks for equality, or an expression, which is evaluated with the value
at the path as its subject and asks for a truthy result.

Pairs are tried in order. The first one that is not met, or that fails, settles the outcome.
-/

namespace UrlCalculus

/-- The operator that returns its argument as it is written. -/
def literalName : String := "$literal"

/-- The operator that matches a value against criteria. -/
def objectMatchesName : String := "$objectMatches"

namespace Value

/-- Null, false, zero and the empty string are not truthy; all else is. -/
def truthy : Value → Bool
  | .null => false
  | .bool b => b
  | .number n => !n.isZero
  | .string s => s ≠ ""
  | .array _ => true
  | .object _ => true

/-- The operand of a quotation; a bare quotation quotes null. -/
def quoted? : Value → Option Value
  | .array (.string head :: operands) =>
    if head = literalName then some (operands.head?.getD .null) else none
  | _ => none

end Value

/-- Whether a value meets one expectation. -/
def meets (evaluator : Evaluator) (context : Context) (value expected : Value) :
    Except Error Bool :=
  match expected.quoted? with
  | some quoted => .ok (value.same quoted)
  | none =>
    if evaluator.isExpression expected then do
      return (← evaluator.evaluate (context.withSubject value) expected).truthy
    else
      .ok (value.same expected)

/-- Whether a value meets criteria. -/
def objectMatches (criteria : Entries) (value : Value) (context : Context)
    (evaluator : Evaluator) : Except Error Bool :=
  match criteria with
  | [] => .ok true
  | (path, expected) :: rest => do
    if ← meets evaluator context ((value.resolve? path).getD .null) expected then
      objectMatches rest value context evaluator
    else
      return false

end UrlCalculus
