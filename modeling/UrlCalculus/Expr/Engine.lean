import UrlCalculus.Expr.Builtin
import UrlCalculus.Expr.UrlOperations

/-!
# The engine

An engine is a configuration and a registry of operations. An array headed by the name of a
registered operation is a call; every other value evaluates to itself.

## Termination

A call is answered only below the depth limit, and whatever is evaluated on its behalf is evaluated
at a greater depth: its arguments one level down, and expressions that its handler asks for in
contexts that the engine itself holds to be deeper. So the recursion ends by the distance to the
limit, although expressions that come from the subject need not be parts of the call.

The handlers of this library ask in deeper contexts only. A handler of another library that asks in
the context it is called in, or in a fresh one, is refused here, as nothing says that it would come
to an end. What such an engine evaluates to is said by an equation, which knows of no refusal:
`Engine.evaluateBy` in `UrlCalculus.Proofs.Expr.Equation`. How the two fit together is the subject
of `UrlCalculus.Proofs.Expr.Handlers`.
-/

namespace UrlCalculus

structure Engine where
  config : Config
  operations : List Operation

namespace Engine

/-! ## The registry -/

def empty (config : Config) : Engine := ⟨config, []⟩

def operation? (engine : Engine) (name : String) : Option Operation :=
  engine.operations.find? fun op ↦ op.name == name

def contains (engine : Engine) (name : String) : Bool :=
  (engine.operation? name).isSome

/-- Put an operation in the place of the one with its name, or at the end. -/
def replaceOperation (op : Operation) : List Operation → List Operation
  | [] => [op]
  | o :: rest => if o.name == op.name then op :: rest else o :: replaceOperation op rest

/-- Add an operation; one with the same name is replaced. -/
def register (engine : Engine) (op : Operation) : Engine :=
  { engine with operations := replaceOperation op engine.operations }

def registerAll (engine : Engine) (ops : List Operation) : Engine :=
  ops.foldl register engine

/-- The engine with all operations of this library. -/
def standard (config : Config) : Engine :=
  (empty config).registerAll (Builtin.operations ++ UrlOperation.operations)

/-! ## Evaluation -/

/-- The operation and the written arguments of a call. -/
def call? (engine : Engine) : Value → Option (Operation × List Value)
  | .array (.string head :: arguments) => (engine.operation? head).map fun op ↦ (op, arguments)
  | _ => none

def isExpression (engine : Engine) (value : Value) : Bool :=
  (engine.call? value).isSome

/-- The value of an expression. -/
def evaluate (engine : Engine) (context : Context) (expression : Value) : Except Error Value :=
  match engine.call? expression with
  | none => .ok expression
  | some (op, written) =>
    if _h : context.depth < engine.config.maxDepth then do
      let arguments ←
        if op.evaluatesArguments then
          written.mapM fun a ↦ do return some (← engine.evaluate context.descend a)
        else
          pure (written.map some)
      op.invoke arguments context
        { evaluate := fun inner e ↦
            if _h : context.depth < inner.depth then engine.evaluate inner e
            else .error (.depthExceeded engine.config.maxDepth)
          isExpression := engine.isExpression
          defaultBase := engine.config.defaultBase }
    else
      .error (.depthExceeded engine.config.maxDepth)
termination_by engine.config.maxDepth - context.depth
decreasing_by
  · omega
  · rw [Context.depth_descend]; omega

/-- What the handler of a call in a context evaluates with: the engine, below that context only. -/
def evaluatorBelow (engine : Engine) (context : Context) : Evaluator where
  evaluate inner e :=
    if context.depth < inner.depth then engine.evaluate inner e
    else .error (.depthExceeded engine.config.maxDepth)
  isExpression := engine.isExpression
  defaultBase := engine.config.defaultBase

/-- The arguments of a call as its operation wants them: evaluated one level deeper, or as they are
written. -/
def callArguments (engine : Engine) (op : Operation) (context : Context) (written : List Value) :
    Except Error Arguments :=
  if op.evaluatesArguments then
    written.mapM fun a ↦ do return some (← engine.evaluate context.descend a)
  else
    pure (written.map some)

theorem evaluate_of_not_call {engine : Engine} {expression : Value}
    (h : engine.call? expression = none) (context : Context) :
    engine.evaluate context expression = .ok expression := by
  rw [evaluate]
  split
  · rfl
  · rename_i hcall
    rw [h] at hcall
    cases hcall

theorem evaluate_of_call {engine : Engine} {context : Context} {expression : Value}
    {op : Operation} {written : List Value} (h : engine.call? expression = some (op, written))
    (hdepth : context.depth < engine.config.maxDepth) :
    engine.evaluate context expression = (do
      let arguments ← engine.callArguments op context written
      op.invoke arguments context (engine.evaluatorBelow context)) := by
  rw [evaluate]
  split
  · rename_i hcall
    rw [h] at hcall
    cases hcall
  · rename_i hcall
    rw [h] at hcall
    cases hcall
    rw [dif_pos hdepth, callArguments]
    simp only [dite_eq_ite]
    split <;> rfl

/-- A call at the limit fails, whatever it calls. -/
theorem evaluate_of_call_of_le {engine : Engine} {context : Context} {expression : Value}
    (h : engine.isExpression expression) (hdepth : engine.config.maxDepth ≤ context.depth) :
    engine.evaluate context expression = .error (.depthExceeded engine.config.maxDepth) := by
  rw [evaluate]
  split
  · rename_i hcall
    simp [isExpression, hcall] at h
  · rw [dif_neg (by omega)]

/-- **Induction on evaluations.** What holds of expressions that are no calls, of calls at the limit,
and of calls whenever it holds of everything that is evaluated deeper, holds of all evaluations. -/
@[elab_as_elim]
theorem evaluate_induction (engine : Engine) {motive : Context → Value → Prop}
    (notCall : ∀ context expression, engine.call? expression = none → motive context expression)
    (limit : ∀ context expression, engine.isExpression expression = true →
      engine.config.maxDepth ≤ context.depth → motive context expression)
    (call : ∀ context expression op written, engine.call? expression = some (op, written) →
      context.depth < engine.config.maxDepth →
      (∀ inner e, context.depth < inner.depth → motive inner e) → motive context expression)
    (context : Context) (expression : Value) : motive context expression := by
  induction hn : engine.config.maxDepth - context.depth using Nat.strongRecOn
    generalizing context expression with
  | _ n ih =>
    cases hcall : engine.call? expression with
    | none => exact notCall context expression hcall
    | some found =>
      by_cases hdepth : context.depth < engine.config.maxDepth
      · refine call context expression found.1 found.2 hcall hdepth fun inner e hlt ↦ ?_
        exact ih (engine.config.maxDepth - inner.depth) (by omega) inner e rfl
      · refine limit context expression ?_ (Nat.le_of_not_lt hdepth)
        rw [isExpression, hcall]
        rfl

/-- What operations are given to evaluate with when they are not called by the engine itself. -/
def evaluator (engine : Engine) : Evaluator where
  evaluate := engine.evaluate
  isExpression := engine.isExpression
  defaultBase := engine.config.defaultBase

end Engine

end UrlCalculus
