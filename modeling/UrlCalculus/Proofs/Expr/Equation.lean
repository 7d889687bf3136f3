import Mathlib.Logic.Function.Iterate
import UrlCalculus.Expr.Engine
import UrlCalculus.Proofs.Outcome

/-!
# The equation of evaluation

An engine hands itself to the handlers that it invokes. What it evaluates to is therefore described
by an equation: the outcome of an expression is what `Engine.evaluateBy` makes of the outcomes of all
that is evaluated on its behalf. Nothing in the equation says in which contexts that is. A handler
of another library may evaluate in the context that it is called in, or in a fresh one, and then
the equation can have several solutions, or none at all.

## Solutions and unfoldings

There are two ways to say what such an engine evaluates to, and neither contains the other. A
function is an evaluation of the engine, `IsEvaluation`, when it solves the equation. An expression
returns an outcome, `Returns`, when the equation can be unfolded so often that the outcome does not
depend on the function at the bottom any more; this is what it means that its evaluation ends, and
it makes sense where a handler that never ends leaves the equation without a solution. What is
returned is the outcome in every solution.

That two expressions have the `SameOutcome` is meant in both ways. A single fact is enough for it:
some number of unfoldings after which nothing at the bottom tells the two apart.
-/

namespace UrlCalculus

variable {evaluate : Context → Value → Except Error Value} {context : Context}

/-! ## Arguments -/

namespace Operation

/-- The arguments of a call as its operation wants them: with the values that a function gives them
one level deeper, or as they are written. -/
def argumentsBy (op : Operation) (evaluate : Context → Value → Except Error Value)
    (context : Context) (written : List Value) : Except Error Arguments :=
  if op.evaluatesArguments then
    written.mapM fun a ↦ do return some (← evaluate context.descend a)
  else
    pure (written.map some)

variable {op : Operation} {written : List Value} {arguments : Arguments}

theorem argumentsBy_nil (h : op.evaluatesArguments = true) :
    op.argumentsBy evaluate context [] = .ok [] := by
  rw [argumentsBy, if_pos h]
  rfl

theorem argumentsBy_cons (h : op.evaluatesArguments = true) (a : Value) (rest : List Value) :
    op.argumentsBy evaluate context (a :: rest) = (do
      let v ← evaluate context.descend a
      let vs ← op.argumentsBy evaluate context rest
      return some v :: vs) := by
  rw [argumentsBy, argumentsBy, if_pos h, if_pos h, List.mapM_cons]
  rcases evaluate context.descend a with e | v <;> rfl

/-- Arguments that stand for themselves are taken as they are written. -/
theorem argumentsBy_of_forall (op : Operation)
    (h : ∀ a ∈ written, evaluate context.descend a = .ok a) :
    op.argumentsBy evaluate context written = .ok (written.map some) := by
  rw [argumentsBy]
  split
  · induction written with
    | nil => rfl
    | cons a rest ih =>
      obtain ⟨ha, hrest⟩ := List.forall_mem_cons.mp h
      rw [List.mapM_cons, ih hrest, ha]
      rfl
  · rfl

theorem length_of_argumentsBy (h : op.argumentsBy evaluate context written = .ok arguments) :
    arguments.length = written.length := by
  rw [argumentsBy] at h
  split at h
  · induction written generalizing arguments with
    | nil =>
      cases h
      rfl
    | cons a rest ih =>
      rw [List.mapM_cons] at h
      obtain ⟨v, -, h⟩ := bind_eq_ok_iff.mp h
      obtain ⟨vs, hvs, h⟩ := bind_eq_ok_iff.mp h
      cases h
      exact congrArg (· + 1) (ih hvs)
  · cases h
    exact List.length_map _

end Operation

namespace Engine

/-! ## One unfolding -/

/-- What operations are given to evaluate with when inner expressions are left to a function. -/
def evaluatorBy (engine : Engine) (evaluate : Context → Value → Except Error Value) :
    Evaluator where
  evaluate
  isExpression := engine.isExpression
  defaultBase := engine.config.defaultBase

/-- The value of an expression when inner expressions have the values that a function gives them,
in whatever contexts. -/
def evaluateBy (engine : Engine) (evaluate : Context → Value → Except Error Value)
    (context : Context) (expression : Value) : Except Error Value :=
  match engine.call? expression with
  | none => .ok expression
  | some (op, written) =>
    if context.depth < engine.config.maxDepth then do
      let arguments ←
        if op.evaluatesArguments then
          written.mapM fun a ↦ do return some (← evaluate context.descend a)
        else
          pure (written.map some)
      op.invoke arguments context (engine.evaluatorBy evaluate)
    else
      .error (.depthExceeded engine.config.maxDepth)

section EvaluateBy

variable {engine : Engine} {expression : Value} {name : String} {op : Operation}
  {written : List Value}

theorem evaluateBy_of_not_call (h : engine.call? expression = none) :
    engine.evaluateBy evaluate context expression = .ok expression := by
  rw [evaluateBy, h]

theorem evaluateBy_of_call (h : engine.call? expression = some (op, written))
    (hdepth : context.depth < engine.config.maxDepth) :
    engine.evaluateBy evaluate context expression = (do
      let arguments ← op.argumentsBy evaluate context written
      op.invoke arguments context (engine.evaluatorBy evaluate)) := by
  rw [evaluateBy, h]
  simp only [if_pos hdepth]
  rw [Operation.argumentsBy]
  split <;> rfl

theorem evaluateBy_of_call_of_le (h : engine.isExpression expression = true)
    (hdepth : engine.config.maxDepth ≤ context.depth) :
    engine.evaluateBy evaluate context expression =
      .error (.depthExceeded engine.config.maxDepth) := by
  obtain ⟨found, hcall⟩ := Option.isSome_iff_exists.mp h
  rw [evaluateBy, hcall]
  exact if_neg (Nat.not_lt_of_le hdepth)

theorem evaluateBy_of_operation? (hop : engine.operation? name = some op)
    (hdepth : context.depth < engine.config.maxDepth) :
    engine.evaluateBy evaluate context (.array (.string name :: written)) = (do
      let arguments ← op.argumentsBy evaluate context written
      op.invoke arguments context (engine.evaluatorBy evaluate)) := by
  refine evaluateBy_of_call ?_ hdepth
  rw [call?, hop]
  rfl

theorem evaluateBy_of_written (hop : engine.operation? name = some op)
    (hdepth : context.depth < engine.config.maxDepth)
    (h : ∀ a ∈ written, evaluate context.descend a = .ok a) :
    engine.evaluateBy evaluate context (.array (.string name :: written)) =
      op.invoke (written.map some) context (engine.evaluatorBy evaluate) := by
  rw [evaluateBy_of_operation? hop hdepth, op.argumentsBy_of_forall h, ok_bind]

/-- What a handler evaluates one level down is evaluated by the engine. -/
theorem evaluate_evaluatorBelow (engine : Engine) (context : Context) (subject expression : Value) :
    (engine.evaluatorBelow context).evaluate (context.withSubject subject) expression =
      engine.evaluate (context.withSubject subject) expression :=
  if_pos (Nat.lt_succ_self _)

/-- So are the operands of a connective. -/
theorem evaluate_evaluatorBelow_descend (engine : Engine) (context : Context) :
    (engine.evaluatorBelow context).evaluate context.descend =
      engine.evaluate context.descend := by
  funext e
  exact evaluate_evaluatorBelow engine context context.subject e

/-- `Engine.evaluate` unfolds with inner evaluations below the context only. -/
theorem evaluate_eq_evaluateBy_below (engine : Engine) (context : Context) (expression : Value) :
    engine.evaluate context expression =
      engine.evaluateBy (engine.evaluatorBelow context).evaluate context expression := by
  rcases hcall : engine.call? expression with - | ⟨op, written⟩
  · rw [evaluate_of_not_call hcall, evaluateBy_of_not_call hcall]
  · rcases Nat.lt_or_ge context.depth engine.config.maxDepth with hdepth | hdepth
    · rw [evaluate_of_call hcall hdepth, evaluateBy_of_call hcall hdepth, callArguments,
        Operation.argumentsBy, evaluate_evaluatorBelow_descend]
      rfl
    · have h : engine.isExpression expression = true := Option.isSome_iff_exists.mpr ⟨_, hcall⟩
      rw [evaluate_of_call_of_le h hdepth, evaluateBy_of_call_of_le h hdepth]

end EvaluateBy

/-! ## Solutions -/

/-- A function that solves the equation of evaluation, with no regard to how it is computed. -/
def IsEvaluation (engine : Engine) (evaluate : Context → Value → Except Error Value) : Prop :=
  ∀ context expression,
    evaluate context expression = engine.evaluateBy evaluate context expression

/-- The outcome of an expression after some unfoldings, whatever function is at the bottom. -/
def Returns (engine : Engine) (context : Context) (expression : Value)
    (outcome : Except Error Value) : Prop :=
  ∃ n, ∀ evaluate, engine.evaluateBy^[n] evaluate context expression = outcome

/-- Two expressions have the same outcome in every evaluation, and return the same. -/
structure SameOutcome (engine : Engine) (context : Context) (expression expression' : Value) :
    Prop where
  evaluation : ∀ evaluate, engine.IsEvaluation evaluate →
    evaluate context expression = evaluate context expression'
  returns : ∀ outcome,
    engine.Returns context expression outcome ↔ engine.Returns context expression' outcome

section Solutions

variable {engine : Engine} {expression expression' : Value} {outcome outcome' : Except Error Value}

theorem IsEvaluation.iterate_eq (h : engine.IsEvaluation evaluate) (n : ℕ) :
    engine.evaluateBy^[n] evaluate = evaluate := by
  apply Function.iterate_fixed
  funext context expression
  exact (h context expression).symm

/-- A call that has a value stands below the limit. -/
theorem IsEvaluation.depth_lt (h : engine.IsEvaluation evaluate) {v : Value}
    (hcall : engine.isExpression expression = true) (hv : evaluate context expression = .ok v) :
    context.depth < engine.config.maxDepth := by
  apply Nat.lt_of_not_le
  intro hle
  rw [h, evaluateBy_of_call_of_le hcall hle] at hv
  cases hv

/-- What is returned is the outcome in every evaluation. -/
theorem IsEvaluation.eq_of_returns (h : engine.IsEvaluation evaluate)
    (hreturns : engine.Returns context expression outcome) :
    evaluate context expression = outcome := by
  obtain ⟨n, hn⟩ := hreturns
  rw [← hn evaluate, h.iterate_eq n]

/-- At most one outcome is returned. -/
theorem Returns.unique (h : engine.Returns context expression outcome)
    (h' : engine.Returns context expression outcome') : outcome' = outcome := by
  obtain ⟨n, hn⟩ := h
  obtain ⟨m, hm⟩ := h'
  let bottom : Context → Value → Except Error Value := fun _ e ↦ .ok e
  calc outcome' = engine.evaluateBy^[m + n] bottom context expression := by
        rw [Function.iterate_add_apply, hm]
    _ = outcome := by rw [Nat.add_comm, Function.iterate_add_apply, hn]

theorem Returns.depth_lt {v : Value} (h : engine.Returns context expression (.ok v))
    (hcall : engine.isExpression expression = true) : context.depth < engine.config.maxDepth := by
  obtain ⟨n, hn⟩ := h
  apply Nat.lt_of_not_le
  intro hle
  -- one more unfolding, at the top, where the call is refused
  have hrefused := hn (engine.evaluateBy fun _ e ↦ .ok e)
  rw [← Function.iterate_succ_apply, Function.iterate_succ_apply',
    evaluateBy_of_call_of_le hcall hle] at hrefused
  cases hrefused

/-- What some unfoldings make equal stays equal under more of them. -/
theorem iterate_eq_of_le {n m : ℕ} (hn : ∀ evaluate,
      engine.evaluateBy^[n] evaluate context expression =
        engine.evaluateBy^[n] evaluate context expression')
    (hle : n ≤ m) (evaluate : Context → Value → Except Error Value) :
    engine.evaluateBy^[m] evaluate context expression =
      engine.evaluateBy^[m] evaluate context expression' := by
  obtain ⟨k, rfl⟩ := Nat.exists_eq_add_of_le hle
  rw [Function.iterate_add_apply]
  exact hn _

theorem Returns.of_iterate_eq {n : ℕ} (h : engine.Returns context expression outcome)
    (hn : ∀ evaluate, engine.evaluateBy^[n] evaluate context expression =
      engine.evaluateBy^[n] evaluate context expression') :
    engine.Returns context expression' outcome := by
  obtain ⟨m, hm⟩ := h
  refine ⟨n + m, ?_⟩
  intro evaluate
  rw [← iterate_eq_of_le hn (Nat.le_add_right n m), Nat.add_comm, Function.iterate_add_apply, hm]

/-- **Expressions that some unfoldings make equal have the same outcome.** -/
theorem SameOutcome.of_iterate_eq (n : ℕ)
    (hn : ∀ evaluate, engine.evaluateBy^[n] evaluate context expression =
      engine.evaluateBy^[n] evaluate context expression') :
    engine.SameOutcome context expression expression' where
  evaluation evaluate h := by
    have := hn evaluate
    rwa [h.iterate_eq n] at this
  returns outcome := by
    constructor
    · intro h
      exact h.of_iterate_eq hn
    · intro h
      exact h.of_iterate_eq fun evaluate ↦ (hn evaluate).symm

end Solutions

end Engine

end UrlCalculus
