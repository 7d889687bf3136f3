import UrlCalculus.Proofs.Expr.Questions
import UrlCalculus.Proofs.Expr.Termination

/-!
# Engines with other handlers

`Engine.evaluate` carries out an inner evaluation below the call that it is made for, and refuses
any other one. The equation of evaluation knows of no refusal. For the operations of this library
there is no difference; an operation of another library that evaluates in the context it is called
in, or in a fresh one, is refused by the one and not by the other.

## Closing handlers over an evaluation

The two are brought together by handlers that do not use what they are given. `Engine.closedOver`
hands some operations a function to evaluate with, instead of what they are called with. A function
solves the equation of an engine exactly when it is what `Engine.evaluate` comes to for the engine
closed over that function, `isEvaluation_iff_evaluate_closedOver`. It is enough to close the
operations of other libraries. So `Engine.evaluate` speaks of every solution there is.

An engine with such an operation, and an evaluation of it, stand at the end.
-/

namespace UrlCalculus

/-! ## Invocations -/

/-- Evaluators that agree one level below a context agree on all that is asked there. -/
theorem Evaluator.Agrees.of_withSubject {evaluator evaluator' : Evaluator} {context : Context}
    (hbase : evaluator'.defaultBase = evaluator.defaultBase)
    (hexpression : evaluator'.isExpression = evaluator.isExpression)
    (heval : ∀ subject e, evaluator'.evaluate (context.withSubject subject) e =
      evaluator.evaluate (context.withSubject subject) e) (arguments : Arguments) :
    evaluator.Agrees evaluator' context context arguments where
  defaultBase := hbase
  item _ _ e _ := heval context.subject e
  isExpression _ _ pair _ := congrFun hexpression pair.2
  expectation _ _ pair _ v _ := heval v pair.2
  record criteria _ record := heval record.toValue (matchingCall criteria)

/-- A handler is only reached with arguments that pass the check. -/
theorem Operation.invoke_withHandler {op : Operation} {handler : Handler} {arguments : Arguments}
    {context : Context} {evaluator evaluator' : Evaluator}
    (h : checkArguments op.name op.parameters (op.prepare arguments context) = .ok () →
      handler (op.prepare arguments context) context evaluator' =
        op.handler (op.prepare arguments context) context evaluator) :
    ({ op with handler } : Operation).invoke arguments context evaluator' =
      op.invoke arguments context evaluator := by
  rw [invoke, invoke]
  change (checkArguments op.name op.parameters (op.prepare arguments context) >>= _) = _
  rcases hcheck : checkArguments op.name op.parameters (op.prepare arguments context) with e | _
  · rfl
  · exact h hcheck

namespace Engine

/-! ## Other handlers -/

/-- The engine with other handlers for its operations. -/
def withHandlers (engine : Engine) (handlers : Operation → Handler) : Engine :=
  { engine with operations := engine.operations.map fun op ↦ { op with handler := handlers op } }

theorem operation?_withHandlers (engine : Engine) (handlers : Operation → Handler)
    (name : String) :
    (engine.withHandlers handlers).operation? name =
      (engine.operation? name).map fun op ↦ { op with handler := handlers op } := by
  rw [operation?, withHandlers, List.find?_map]
  rfl

theorem call?_withHandlers (engine : Engine) (handlers : Operation → Handler)
    (expression : Value) :
    (engine.withHandlers handlers).call? expression =
      (engine.call? expression).map fun found ↦
        ({ found.1 with handler := handlers found.1 }, found.2) := by
  unfold call?
  split
  · rw [operation?_withHandlers, Option.map_map, Option.map_map]
    rfl
  · rfl

theorem isExpression_withHandlers (engine : Engine) (handlers : Operation → Handler) :
    (engine.withHandlers handlers).isExpression = engine.isExpression := by
  funext expression
  rw [isExpression, call?_withHandlers, Option.isSome_map]
  rfl

section WithHandlers

variable {engine : Engine} {handlers : Operation → Handler}
  {evaluate : Context → Value → Except Error Value} {context : Context}

/-- **Handlers that make up for the guard.** Where the arguments of a call have the values that a
function gives them, and each handler gives what the original one gives with that function, the
engine evaluates as the equation of the original one says. -/
theorem evaluate_withHandlers_eq_evaluateBy
    (harguments : context.depth < engine.config.maxDepth →
      (engine.withHandlers handlers).evaluate context.descend = evaluate context.descend)
    (hhandlers : context.depth < engine.config.maxDepth →
      ∀ name op, engine.operation? name = some op → ∀ arguments,
        Operation.checkArguments op.name op.parameters (op.prepare arguments context) = .ok () →
          handlers op (op.prepare arguments context) context
              ((engine.withHandlers handlers).evaluatorBelow context) =
            op.handler (op.prepare arguments context) context (engine.evaluatorBy evaluate))
    (expression : Value) :
    (engine.withHandlers handlers).evaluate context expression =
      engine.evaluateBy evaluate context expression := by
  have hcall' := call?_withHandlers engine handlers expression
  rcases hcall : engine.call? expression with - | ⟨op, written⟩
  · rw [hcall] at hcall'
    rw [evaluate_of_not_call hcall', evaluateBy_of_not_call hcall]
  · rw [hcall] at hcall'
    rcases Nat.lt_or_ge context.depth engine.config.maxDepth with hdepth | hdepth
    · obtain ⟨name, hop, -⟩ := operation?_of_call? hcall
      have hsame : (engine.withHandlers handlers).callArguments
          { op with handler := handlers op } context written =
            op.argumentsBy evaluate context written := by
        rw [callArguments, harguments hdepth]
        rfl
      rw [evaluate_of_call hcall' hdepth, evaluateBy_of_call hcall hdepth, hsame]
      apply bind_congr
      intro arguments
      exact Operation.invoke_withHandler (hhandlers hdepth name op hop arguments)
    · have h : engine.isExpression expression = true := Option.isSome_iff_exists.mpr ⟨_, hcall⟩
      have h' : (engine.withHandlers handlers).isExpression expression = true :=
        Option.isSome_iff_exists.mpr ⟨_, hcall'⟩
      rw [evaluate_of_call_of_le h' hdepth, evaluateBy_of_call_of_le h hdepth]
      rfl

/-- Operations of this library can keep their handlers. -/
theorem handler_evaluatorBelow_withHandlers {op : Operation} (hop : op ∈ stockOperations)
    (heval : ∀ subject e, (engine.withHandlers handlers).evaluate (context.withSubject subject) e =
      evaluate (context.withSubject subject) e) (arguments : Arguments) :
    op.handler arguments context ((engine.withHandlers handlers).evaluatorBelow context) =
      op.handler arguments context (engine.evaluatorBy evaluate) := by
  have hagrees : (engine.evaluatorBy evaluate).Agrees
      ((engine.withHandlers handlers).evaluatorBelow context) context context arguments := by
    apply Evaluator.Agrees.of_withSubject
    · rfl
    · exact isExpression_withHandlers engine handlers
    · intro subject e
      rw [evaluate_evaluatorBelow]
      exact heval subject e
  exact handler_congr hop hagrees fun _ ↦ rfl

end WithHandlers

/-! ## Closed handlers -/

/-- The engine in which some operations evaluate with a function, whatever they are given to
evaluate with. -/
def closedOver (engine : Engine) (closed : Operation → Bool)
    (evaluate : Context → Value → Except Error Value) : Engine :=
  engine.withHandlers fun op arguments context evaluator ↦
    op.handler arguments context (if closed op then engine.evaluatorBy evaluate else evaluator)

section ClosedOver

variable {engine : Engine} {closed : Operation → Bool}
  {evaluate : Context → Value → Except Error Value} {context : Context}

theorem evaluate_closedOver_eq_evaluateBy
    (hstock : ∀ name op, engine.operation? name = some op → closed op = false →
      op ∈ stockOperations)
    (hbelow : context.depth < engine.config.maxDepth → ∀ subject e,
      (engine.closedOver closed evaluate).evaluate (context.withSubject subject) e =
        evaluate (context.withSubject subject) e) (expression : Value) :
    (engine.closedOver closed evaluate).evaluate context expression =
      engine.evaluateBy evaluate context expression := by
  apply evaluate_withHandlers_eq_evaluateBy
  · intro hdepth
    funext e
    exact hbelow hdepth context.subject e
  · intro hdepth name op hop arguments _
    cases hclosed : closed op with
    | true => rfl
    | false =>
      exact handler_evaluatorBelow_withHandlers (hstock name op hop hclosed) (hbelow hdepth) _

/-- **Every evaluation is the one below the guard, of an engine closed over it**, and conversely. The
operations that are left open are those of this library, or some of them. -/
theorem isEvaluation_iff_evaluate_closedOver
    (hstock : ∀ name op, engine.operation? name = some op → closed op = false →
      op ∈ stockOperations) :
    engine.IsEvaluation evaluate ↔ (engine.closedOver closed evaluate).evaluate = evaluate := by
  constructor
  · intro h
    funext context expression
    -- the induction is on the room below the limit
    induction hn : engine.config.maxDepth - context.depth using Nat.strongRecOn
      generalizing context expression with
    | _ n ih =>
      rw [h context expression]
      apply evaluate_closedOver_eq_evaluateBy hstock
      intro hdepth subject e
      exact ih _ (by rw [Context.depth_withSubject]; omega) _ e rfl
  · intro h context expression
    rw [← evaluate_closedOver_eq_evaluateBy hstock, h]
    intro _ subject e
    rw [h]

end ClosedOver

/-! ## An operation that evaluates where it is called -/

/-- The value at a path of the subject, or another one where that is missing. The subject is asked
for by an evaluation in the context of the call. -/
def valueOr : Handler := fun arguments context evaluator ↦ do
  let subject ← evaluator.evaluate context (.array [.string "$value"])
  let found := (subject.resolve? ((stringArgument? arguments 0).getD "")).getD .null
  return if found.same (argumentOrNull arguments 2) then argumentOrNull arguments 1 else found

/-- What stands for a missing value is the subject, unless it is given; what counts as missing is
null, unless it is given as well. -/
def valueOrOperation : Operation :=
  (Operation.of "$valueOr" [⟨"path", .string⟩, ⟨"fallback", .any⟩, ⟨"missing", .any⟩]
    valueOr).withDefaultPlace (some 1)

/-- The engine of this library with that operation. -/
def lookingUp : Engine := (standard {}).register valueOrOperation

/-- An evaluation of it. The operation is closed over the engine without it, which evaluates all
that it asks for. -/
def lookedUp : Context → Value → Except Error Value :=
  (lookingUp.closedOver (fun op ↦ op.name == "$valueOr") (standard {}).evaluate).evaluate

section LookingUp

variable {context : Context} {path : String}

theorem config_lookingUp : lookingUp.config = {} := config_standard {}

theorem operation?_lookingUp (name : String) :
    lookingUp.operation? name = if "$valueOr" = name then some valueOrOperation else stock? name := by
  rw [← operation?_standard {}]
  exact operation?_register (standard {}) valueOrOperation name

theorem invoke_valueOrOperation {evaluator : Evaluator}
    (hsubject : evaluator.evaluate context (.array [.string "$value"]) = .ok context.subject)
    (hpath : context.subject.resolve? path = none) :
    valueOrOperation.invoke [some (.string path)] context evaluator = .ok context.subject := by
  have hchecked : Operation.checkArguments "$valueOr" valueOrOperation.parameters
      [some (.string path), some context.subject, none] = .ok () := by
    exact (checkArguments_cons (check_string path)).trans ((checkArguments_cons (check_any _)).trans
      ((checkArguments_cons (check_any _)).trans (checkArguments_nil _ _)))
  rw [Operation.invoke]
  change (Operation.checkArguments "$valueOr" valueOrOperation.parameters
    [some (.string path), some context.subject, none] >>= _) = _
  rw [hchecked, ok_bind]
  change valueOr [some (.string path), some context.subject, none] context evaluator = _
  rw [valueOr, hsubject, ok_bind]
  change Except.ok (if ((context.subject.resolve? path).getD .null).same .null then _ else _) = _
  rw [hpath]
  rfl

/-- The subject stands in for the value at a path that leads nowhere, although the operation
evaluates in its own context. -/
theorem returns_valueOr (hdepth : context.depth < lookingUp.config.maxDepth)
    (hpath : context.subject.resolve? path = none) :
    lookingUp.Returns context (.array [.string "$valueOr", .string path]) (.ok context.subject) := by
  refine ⟨2, ?_⟩
  intro evaluate
  have hwritten : lookingUp.evaluateBy evaluate context.descend (.string path) =
      .ok (.string path) := evaluateBy_of_not_call rfl
  have hsubject : lookingUp.evaluateBy evaluate context (.array [.string "$value"]) =
      .ok context.subject := evaluateBy_value (operation?_lookingUp "$value") hdepth
  rw [Function.iterate_succ_apply', Function.iterate_one,
    evaluateBy_of_written (operation?_lookingUp "$valueOr") hdepth
      (List.forall_mem_singleton.mpr hwritten)]
  exact invoke_valueOrOperation hsubject hpath

theorem isEvaluation_lookedUp : lookingUp.IsEvaluation lookedUp := by
  intro context expression
  apply evaluate_withHandlers_eq_evaluateBy
  · intro _
    rfl
  · intro hdepth name op hop arguments _
    rw [operation?_lookingUp] at hop
    split at hop
    · cases hop
      have hstandard : (standard {}).evaluate context (.array [.string "$value"]) =
          .ok context.subject := evaluate_value (operation?_standard {} "$value") hdepth
      have hlookedUp : lookedUp context (.array [.string "$value"]) = .ok context.subject := by
        refine evaluate_value ?_ hdepth
        rw [closedOver, operation?_withHandlers, operation?_lookingUp]
        rfl
      exact congrArg (· >>= _) (hstandard.trans hlookedUp.symm)
    · rename_i hname
      have hclosed : (op.name == "$valueOr") = false := by
        have hfound := List.find?_some hop
        rw [eq_of_beq hfound]
        exact beq_false_of_ne (Ne.symm hname)
      simp only [hclosed]
      exact handler_evaluatorBelow_withHandlers (mem_of_stock?_eq_some hop) (fun _ _ ↦ rfl) _

end LookingUp

end Engine

end UrlCalculus
