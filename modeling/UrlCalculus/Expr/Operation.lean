import UrlCalculus.Expr.Context

/-!
# Operations

An operation has named, typed parameters and a handler. Invoking it supplies missing arguments,
checks the types, and hands the arguments over. An argument may be absent, which is different from
being null; the argument in the default place, when absent, is the subject of the context.
-/

namespace UrlCalculus

abbrev Arguments := List (Option Value)

/-- The argument at a place; there is none past the end. -/
def argument? (arguments : Arguments) (i : Nat) : Option Value :=
  arguments[i]?.join

/-- The argument at a place, null when absent. -/
def argumentOrNull (arguments : Arguments) (i : Nat) : Value :=
  (argument? arguments i).getD .null

/-- The argument at a place, if it is a string. -/
def stringArgument? (arguments : Arguments) (i : Nat) : Option String :=
  (argument? arguments i).bind Value.asString?

abbrev Handler := Arguments → Context → Evaluator → Except Error Value

structure Parameter where
  name : String
  spec : Spec

structure Operation where
  name : String
  parameters : List Parameter
  handler : Handler
  /-- The place at which the subject stands in for an absent argument. -/
  defaultPlace : Option Nat
  evaluatesArguments : Bool

namespace Operation

/-- The place of the last of `n` parameters. -/
def lastPlace : Nat → Option Nat
  | 0 => none
  | n + 1 => some n

/-- An operation with evaluated arguments, whose last parameter defaults to the subject. -/
def of (name : String) (parameters : List Parameter) (handler : Handler) : Operation where
  name
  parameters
  handler
  defaultPlace := lastPlace parameters.length
  evaluatesArguments := true

def withDefaultPlace (place : Option Nat) (op : Operation) : Operation :=
  { op with defaultPlace := place }

/-- The same operation on its arguments as they are written. -/
def withRawArguments (op : Operation) : Operation :=
  { op with evaluatesArguments := false }

/-- Absent arguments up to the number of parameters. -/
def pad (op : Operation) (arguments : Arguments) : Arguments :=
  arguments ++ List.replicate (op.parameters.length - arguments.length) none

/-- The subject, where the default argument is absent. -/
def fillDefault (op : Operation) (subject : Value) (arguments : Arguments) : Arguments :=
  match op.defaultPlace with
  | none => arguments
  | some place => arguments.modify place fun argument ↦ argument.orElse fun _ ↦ some subject

/-- Check parameters against the arguments in the same places. -/
def checkArguments (op : String) : List Parameter → Arguments → Except Error Unit
  | p :: ps, a :: as => do
    (p.spec.checkArgument op p.name a).mapError .argument
    checkArguments op ps as
  | _, _ => .ok ()

/-- The arguments that the handler receives. -/
def prepare (op : Operation) (arguments : Arguments) (context : Context) : Arguments :=
  op.fillDefault context.subject (op.pad arguments)

def invoke (op : Operation) (arguments : Arguments) (context : Context) (evaluator : Evaluator) :
    Except Error Value := do
  let prepared := op.prepare arguments context
  checkArguments op.name op.parameters prepared
  op.handler prepared context evaluator

end Operation

end UrlCalculus
