import UrlCalculus.Proofs.Expr.Handlers
import UrlCalculus.Proofs.Expr.Provenance

/-!
# Quoting what was computed

A call that stands as an argument can be replaced by its value, if the value is quoted. Without the
quotation it could be taken for a call again; with it the evaluation goes on as before, since a call
sees the values of its arguments only and not how they came about. The quotation stands where the
call stood, so it needs no more room below the limit than the call did.

The replacement takes place at any number of positions at once, in the way of a parallel reduction:
each position is reached from the outside through arguments that are evaluated, and what is replaced
there has its value in the context that evaluation has come to.

Operations of other libraries may stand anywhere, and nothing is known about what they evaluate. So
the value of a call is taken in both senses there are for such engines: as the one that an
evaluation gives it, and as the one that it returns.
-/

namespace UrlCalculus

/-- The call that returns a value as it is written. -/
def Value.quotation (v : Value) : Value := .array [.string literalName, v]

namespace Engine

/-- The second expression is the first one with the calls at some positions replaced by quotations of
their values. What a call computes, in the context that evaluation has come to, is said by a
relation. -/
inductive Quotes (engine : Engine) (computes : Context → Value → Value → Prop) :
    Context → Value → Value → Prop where
  /-- There is no position in the expression. -/
  | kept (context : Context) (expression : Value) :
      Quotes engine computes context expression expression
  /-- The expression itself stands at a position. -/
  | quoted {context : Context} {expression v : Value} :
      engine.isExpression expression = true → computes context expression v →
      Quotes engine computes context expression v.quotation
  /-- There are positions in arguments, each of which is given with what takes its place. -/
  | inArguments {context : Context} {name : String} {op : Operation}
      {arguments : List (Value × Value)} :
      engine.operation? name = some op → op.evaluatesArguments = true →
      (∀ argument ∈ arguments, Quotes engine computes context.descend argument.1 argument.2) →
      Quotes engine computes context (.array (.string name :: arguments.map Prod.fst))
        (.array (.string name :: arguments.map Prod.snd))

variable {engine : Engine} {evaluate : Context → Value → Except Error Value} {context : Context}
  {expression expression' : Value}

/-! ## One unfolding -/

theorem evaluateBy_quotation (hliteral : engine.operation? literalName = some literalOperation)
    (hdepth : context.depth < engine.config.maxDepth) (v : Value) :
    engine.evaluateBy evaluate context v.quotation = .ok v := by
  rw [Value.quotation, evaluateBy_of_operation? hliteral hdepth]
  rfl

theorem evaluate_quotation (hliteral : engine.operation? literalName = some literalOperation)
    (hdepth : context.depth < engine.config.maxDepth) (v : Value) :
    engine.evaluate context v.quotation = .ok v := by
  rw [evaluate_eq_evaluateBy_below, evaluateBy_quotation hliteral hdepth]

/-- A call is given the values of its arguments, however these are written. -/
theorem evaluateBy_map_snd {name : String} {op : Operation}
    (hop : engine.operation? name = some op) (heager : op.evaluatesArguments = true)
    {arguments : List (Value × Value)} (h : ∀ argument ∈ arguments,
      evaluate context.descend argument.2 = evaluate context.descend argument.1) :
    engine.evaluateBy evaluate context (.array (.string name :: arguments.map Prod.snd)) =
      engine.evaluateBy evaluate context (.array (.string name :: arguments.map Prod.fst)) := by
  rcases Nat.lt_or_ge context.depth engine.config.maxDepth with hdepth | hdepth
  · have hsame : op.argumentsBy evaluate context (arguments.map Prod.snd) =
        op.argumentsBy evaluate context (arguments.map Prod.fst) := by
      induction arguments with
      | nil => rfl
      | cons argument rest ih =>
        obtain ⟨hargument, hrest⟩ := List.forall_mem_cons.mp h
        rw [List.map_cons, List.map_cons, Operation.argumentsBy_cons heager,
          Operation.argumentsBy_cons heager, hargument, ih hrest]
    rw [evaluateBy_of_operation? hop hdepth, evaluateBy_of_operation? hop hdepth, hsame]
  · -- both calls are refused, whatever their arguments are
    rw [evaluateBy_of_call_of_le (isExpression_of_operation? hop _) hdepth,
      evaluateBy_of_call_of_le (isExpression_of_operation? hop _) hdepth]

/-! ## All positions -/

/-- An evaluation does not notice quotations of the values that it gives itself. -/
theorem IsEvaluation.eq_of_quotes (h : engine.IsEvaluation evaluate)
    (hliteral : engine.operation? literalName = some literalOperation)
    (hquotes : engine.Quotes (fun c e v ↦ evaluate c e = .ok v) context expression expression') :
    evaluate context expression' = evaluate context expression := by
  induction hquotes with
  | kept context expression => rfl
  | quoted hcall hv => rw [hv, h, evaluateBy_quotation hliteral (h.depth_lt hcall hv)]
  | @inArguments context name op arguments hop heager _ ih =>
    rw [h context (.array (.string name :: arguments.map Prod.snd)), evaluateBy_map_snd hop heager ih,
      ← h]

/-- Unfoldings that are enough for each of some expressions are enough for all of them. -/
theorem exists_forall_iterate_eq {arguments : List (Value × Value)}
    (h : ∀ argument ∈ arguments, ∃ n, ∀ evaluate,
      engine.evaluateBy^[n] evaluate context argument.2 =
        engine.evaluateBy^[n] evaluate context argument.1) :
    ∃ n, ∀ argument ∈ arguments, ∀ evaluate,
      engine.evaluateBy^[n] evaluate context argument.2 =
        engine.evaluateBy^[n] evaluate context argument.1 := by
  induction arguments with
  | nil => exact ⟨0, List.forall_mem_nil _⟩
  | cons argument rest ih =>
    obtain ⟨⟨n, hn⟩, hrest⟩ := List.forall_mem_cons.mp h
    obtain ⟨m, hm⟩ := ih hrest
    refine ⟨max n m, List.forall_mem_cons.mpr ⟨?_, ?_⟩⟩
    · exact iterate_eq_of_le hn (Nat.le_max_left n m)
    · intro other hother
      exact iterate_eq_of_le (hm other hother) (Nat.le_max_right n m)

/-- Where the quoted values are returned, some unfoldings make the two expressions equal. -/
theorem exists_iterate_eq_of_quotes
    (hliteral : engine.operation? literalName = some literalOperation)
    (hquotes : engine.Quotes (fun c e v ↦ engine.Returns c e (.ok v)) context expression
      expression') :
    ∃ n, ∀ evaluate, engine.evaluateBy^[n] evaluate context expression' =
      engine.evaluateBy^[n] evaluate context expression := by
  induction hquotes with
  | kept context expression => exact ⟨0, fun _ ↦ rfl⟩
  | @quoted context expression v hcall hreturns =>
    have hdepth := hreturns.depth_lt hcall
    obtain ⟨n, hn⟩ := hreturns
    refine ⟨n + 1, ?_⟩
    intro evaluate
    calc engine.evaluateBy^[n + 1] evaluate context v.quotation = .ok v := by
          rw [Function.iterate_succ_apply', evaluateBy_quotation hliteral hdepth]
      _ = engine.evaluateBy^[n + 1] evaluate context expression := by
          rw [Function.iterate_succ_apply, hn]
  | inArguments hop heager _ ih =>
    obtain ⟨n, hn⟩ := exists_forall_iterate_eq ih
    refine ⟨n + 1, ?_⟩
    intro evaluate
    rw [Function.iterate_succ_apply']
    apply evaluateBy_map_snd hop heager
    intro argument hargument
    exact hn argument hargument evaluate

/-- **Quoting what was computed changes nothing.** Where quotation is what it is in this library, an
expression in which calls at any positions are replaced by quotations of their values has the
outcome of the expression itself, value or error. The values may be those of any one evaluation, in
which the outcomes then agree, or they may be returned, and then the outcomes are the same in every
sense. -/
theorem evaluate_eq_of_quotes (hliteral : engine.operation? literalName = some literalOperation) :
    (∀ evaluate, engine.IsEvaluation evaluate →
      engine.Quotes (fun c e v ↦ evaluate c e = .ok v) context expression expression' →
        evaluate context expression' = evaluate context expression) ∧
    (engine.Quotes (fun c e v ↦ engine.Returns c e (.ok v)) context expression expression' →
      engine.SameOutcome context expression' expression) := by
  constructor
  · intro evaluate h hquotes
    exact h.eq_of_quotes hliteral hquotes
  · intro hquotes
    obtain ⟨n, hn⟩ := exists_iterate_eq_of_quotes hliteral hquotes
    exact SameOutcome.of_iterate_eq n hn

/-- The value that is quoted may look like a call, and it may come from an operation that evaluates
in its own context. -/
theorem evaluate_eq_of_quotes_lookingUp :
    let subject := Value.array [.string "$not", .bool true]
    let asked := Value.array [.string "$valueOr", .string "a"]
    let expression := Value.array [.string "$eq", asked, .null]
    let expression' := Value.array [.string "$eq", subject.quotation, .null]
    lookingUp.operation? literalName = some literalOperation ∧
      lookingUp.IsEvaluation lookedUp ∧
      lookingUp.Quotes (fun c e v ↦ lookedUp c e = .ok v) (.root subject) expression expression' ∧
      lookedUp (.root subject) expression' = lookedUp (.root subject) expression ∧
      lookingUp.Quotes (fun c e v ↦ lookingUp.Returns c e (.ok v)) (.root subject) expression
        expression' ∧
      lookingUp.SameOutcome (.root subject) expression' expression := by
  intro subject asked expression expression'
  have hliteral := (operation?_lookingUp literalName).trans stock?_literalName
  have hreturns : lookingUp.Returns (Context.root subject).descend asked (.ok subject) := by
    apply returns_valueOr
    · rw [config_lookingUp]
      decide
    · rfl
  have hquotes {computes : Context → Value → Value → Prop}
      (h : computes (Context.root subject).descend asked subject) :
      lookingUp.Quotes computes (.root subject) expression expression' := by
    let arguments := [(asked, subject.quotation), (Value.null, Value.null)]
    refine @Quotes.inArguments _ _ _ _ _ arguments (operation?_lookingUp "$eq") rfl ?_
    rw [List.forall_mem_cons, List.forall_mem_singleton]
    refine ⟨.quoted ?_ h, .kept _ _⟩
    exact isExpression_of_operation? (operation?_lookingUp "$valueOr") _
  have hevaluation : lookingUp.Quotes (fun c e v ↦ lookedUp c e = .ok v) (.root subject)
      expression expression' := hquotes (isEvaluation_lookedUp.eq_of_returns hreturns)
  obtain ⟨hsolutions, hunfoldings⟩ := evaluate_eq_of_quotes hliteral
  exact ⟨hliteral, isEvaluation_lookedUp, hevaluation,
    hsolutions lookedUp isEvaluation_lookedUp hevaluation, hquotes hreturns,
    hunfoldings (hquotes hreturns)⟩

end Engine

end UrlCalculus
