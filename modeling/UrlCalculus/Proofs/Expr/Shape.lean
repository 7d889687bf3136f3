import UrlCalculus.Proofs.Expr.Failure
import UrlCalculus.Proofs.Expr.Handlers
import UrlCalculus.Proofs.Expr.Provenance
import UrlCalculus.Proofs.FieldSet.Decoding

/-!
# The shape of arguments

Some handlers have a branch for arguments of the wrong shape: criteria that are no object end in an
error about the expression, and a URL that is no string counts as the empty one. No evaluation gets
there. Arguments are checked against the parameters before the handler sees them, whether they were
written, computed, or taken from the subject, and what the check lets through has the shape that the
handler counts on. So a fault in the shape of an argument always ends in a type error.

That a branch is not reached cannot be seen from results alone. It is said in two ways here: the
arguments that a handler is given are well-shaped, for every invocation; and with handlers that do
anything else on other arguments, every evaluation has the result that it has.
-/

namespace UrlCalculus

/-! ## What handlers count on -/

/-- Criteria are an object, and a URL is a string. -/
structure WellShaped (name : String) (arguments : Arguments) : Prop where
  criteria : name = objectMatchesName ∨ name = UrlOperation.matchesName →
    ∃ criteria, argument? arguments 0 = some (.object criteria)
  parsedUrl : name = UrlOperation.parseName → ∃ url, stringArgument? arguments 0 = some url
  secondUrl : name = UrlOperation.matchesName ∨ name = UrlOperation.setName →
    ∃ url, stringArgument? arguments 1 = some url

theorem stringArgument?_of_check {arguments : Arguments} {i : Nat}
    (h : Spec.check .string (argument? arguments i) = .ok ()) :
    ∃ s, stringArgument? arguments i = some s := by
  obtain ⟨s, hs⟩ := Spec.check_string_eq_ok_iff.mp h
  exact ⟨s, by rw [stringArgument?, hs]; rfl⟩

theorem criteria_of_check {arguments : Arguments} {i : Nat}
    (h : Spec.check (.objectOf .any) (argument? arguments i) = .ok ()) :
    ∃ criteria, argument? arguments i = some (.object criteria) := by
  obtain ⟨criteria, hcriteria, -⟩ := Spec.check_objectOf_eq_ok_iff.mp h
  exact ⟨criteria, hcriteria⟩

namespace Operation

/-- **What the check lets through is well-shaped.** -/
theorem wellShaped_prepare {op : Operation} (hop : op ∈ Engine.stockOperations)
    {arguments : Arguments} {context : Context}
    (h : checkArguments op.name op.parameters (op.prepare arguments context) = .ok ()) :
    WellShaped op.name (op.prepare arguments context) := by
  have hcheck {i : Nat} {p : Parameter} (hp : op.parameters[i]? = some p) :
      p.spec.check (argument? (op.prepare arguments context) i) = .ok () :=
    check_of_checkArguments (op.length_le_length_prepare arguments context) h hp
  have hstring {i : Nat} {name : String} (hp : op.parameters[i]? = some ⟨name, .string⟩) :
      ∃ url, stringArgument? (op.prepare arguments context) i = some url :=
    stringArgument?_of_check (hcheck hp)
  have hobject {i : Nat} {name : String} (hp : op.parameters[i]? = some ⟨name, .objectOf .any⟩) :
      ∃ criteria, argument? (op.prepare arguments context) i = some (.object criteria) :=
    criteria_of_check (hcheck hp)
  refine ⟨?_, fun hname ↦ ?_, ?_⟩
  · rintro (hname | hname)
    · obtain rfl := Engine.eq_of_stock?_name hop (hname ▸ Engine.stock?_objectMatchesName)
      exact hobject rfl
    · obtain rfl := Engine.eq_of_stock?_name hop (hname ▸ Engine.stock?_matchesName)
      exact hobject rfl
  · obtain rfl := Engine.eq_of_stock?_name hop (hname ▸ Engine.stock?_parseName)
    exact hstring rfl
  · rintro (hname | hname)
    · obtain rfl := Engine.eq_of_stock?_name hop (hname ▸ Engine.stock?_matchesName)
      exact hstring rfl
    · obtain rfl := Engine.eq_of_stock?_name hop (hname ▸ Engine.stock?_setName)
      exact hstring rfl

/-- An invocation hands well-shaped arguments over, or fails with a type error. -/
theorem wellShaped_or_invoke_eq_error {op : Operation} (hop : op ∈ Engine.stockOperations)
    (arguments : Arguments) (context : Context) (evaluator : Evaluator) :
    WellShaped op.name (op.prepare arguments context) ∨
      ∃ a, op.invoke arguments context evaluator = .error (.argument a) := by
  cases hcheck : checkArguments op.name op.parameters (op.prepare arguments context) with
  | ok _ => exact .inl (wellShaped_prepare hop hcheck)
  | error e =>
    obtain ⟨a, rfl⟩ := failsWithin_checkArguments _ _ _ e hcheck
    refine .inr ⟨a, ?_⟩
    rw [invoke, hcheck, error_bind]

end Operation

/-! ## Results that are no complaint about the expression -/

/-- A result other than an error about the expression. -/
def Regular {α : Type} (r : Except Error α) : Prop :=
  ∀ reason, r ≠ .error (.invalidExpression reason)

section Regular

variable {α β : Type} {r : Except Error α}

theorem regular_iff_failsWithin :
    Regular r ↔ FailsWithin (fun e ↦ ∀ reason, e ≠ .invalidExpression reason) r := by
  constructor
  · rintro h _ he reason rfl
    exact h reason he
  · intro h reason he
    exact h _ he reason rfl

theorem regular_ok (a : α) : Regular (.ok a) :=
  regular_iff_failsWithin.mpr (failsWithin_ok a)

theorem Regular.bind {f : α → Except Error β} (h : Regular r) (hf : ∀ a, Regular (f a)) :
    Regular (r >>= f) := by
  rw [regular_iff_failsWithin] at h ⊢
  exact h.bind fun a ↦ regular_iff_failsWithin.mp (hf a)

/-- An error in what is given is no complaint about the expression. -/
theorem regular_of_input (h : FailsWithin Error.OfInput r) : Regular r := by
  refine regular_iff_failsWithin.mpr (h.mono ?_)
  rintro _ (_ | _ | _) reason ⟨⟩

end Regular

/-! ## Handlers -/

section Handlers

variable {evaluator : Evaluator} {context : Context} {arguments : Arguments}

theorem regular_allTruthy {f : Value → Except Error Value} (hf : ∀ e, Regular (f e))
    (es : List Value) : Regular (Builtin.allTruthy f es) := by
  induction es with
  | nil => exact regular_ok _
  | cons e rest ih =>
    refine (hf e).bind fun v ↦ ?_
    split
    · exact ih
    · exact regular_ok _

theorem regular_anyTruthy {f : Value → Except Error Value} (hf : ∀ e, Regular (f e))
    (es : List Value) : Regular (Builtin.anyTruthy f es) := by
  induction es with
  | nil => exact regular_ok _
  | cons e rest ih =>
    refine (hf e).bind fun v ↦ ?_
    split
    · exact regular_ok _
    · exact ih

variable (heval : ∀ subject e, Regular (evaluator.evaluate (context.withSubject subject) e))

include heval

theorem regular_meets (v expected : Value) : Regular (meets evaluator context v expected) := by
  rw [meets]
  split
  · exact regular_ok _
  · split
    · exact (heval v expected).bind fun _ ↦ regular_ok _
    · exact regular_ok _

theorem regular_objectMatches (criteria : Entries) (v : Value) :
    Regular (objectMatches criteria v context evaluator) := by
  induction criteria with
  | nil => exact regular_ok _
  | cons pair rest ih =>
    refine (regular_meets heval _ _).bind fun met ↦ ?_
    split
    · exact ih
    · exact regular_ok _

theorem regular_urlMatches (criteria : Entries) (url : String) :
    Regular (urlMatches criteria url evaluator context) := by
  refine (regular_of_input (failsWithin_mapError_url _)).bind fun record ↦ ?_
  exact (heval _ _).bind fun _ ↦ regular_ok _

theorem regular_matching (h : WellShaped objectMatchesName arguments) :
    Regular (Builtin.matching arguments context evaluator) := by
  obtain ⟨criteria, hcriteria⟩ := h.criteria (.inl rfl)
  rw [Builtin.matching, hcriteria]
  exact (regular_objectMatches heval criteria _).bind fun _ ↦ regular_ok _

theorem regular_urlMatching (h : WellShaped UrlOperation.matchesName arguments) :
    Regular (UrlOperation.matching arguments context evaluator) := by
  obtain ⟨criteria, hcriteria⟩ := h.criteria (.inr rfl)
  rw [UrlOperation.matching, hcriteria]
  exact (regular_urlMatches heval criteria _).bind fun _ ↦ regular_ok _

theorem regular_conjunction (arguments : Arguments) :
    Regular (Builtin.conjunction arguments context evaluator) :=
  (regular_allTruthy (heval context.subject) _).bind fun _ ↦ regular_ok _

theorem regular_disjunction (arguments : Arguments) :
    Regular (Builtin.disjunction arguments context evaluator) :=
  (regular_anyTruthy (heval context.subject) _).bind fun _ ↦ regular_ok _

/-- On well-shaped arguments the handlers of this library complain about no expression. -/
theorem regular_handler {op : Operation} (hop : op ∈ Engine.stockOperations)
    (hshape : WellShaped op.name arguments) : Regular (op.handler arguments context evaluator) := by
  by_cases hname : op.name ∈ Engine.askingNames
  · simp only [Engine.askingNames, List.mem_cons, List.not_mem_nil, or_false] at hname
    rcases hname with hname | hname | hname | hname
    · obtain rfl := Engine.eq_of_stock?_name hop (congrArg Engine.stock? hname)
      exact regular_conjunction heval arguments
    · obtain rfl := Engine.eq_of_stock?_name hop (congrArg Engine.stock? hname)
      exact regular_disjunction heval arguments
    · obtain rfl := Engine.eq_of_stock?_name hop (congrArg Engine.stock? hname)
      exact regular_matching heval hshape
    · obtain rfl := Engine.eq_of_stock?_name hop (congrArg Engine.stock? hname)
      exact regular_urlMatching heval hshape
  · exact regular_of_input (Engine.failsWithin_handler hop hname)

end Handlers

namespace Engine

/-! ## Evaluation -/

section Evaluation

variable {engine : Engine} {context : Context} {op : Operation}

theorem regular_callArguments
    (hinner : ∀ subject e, Regular (engine.evaluate (context.withSubject subject) e))
    (written : List Value) : Regular (engine.callArguments op context written) := by
  rw [callArguments]
  split
  · refine regular_iff_failsWithin.mpr (failsWithin_mapM fun a _ ↦ ?_)
    rw [← regular_iff_failsWithin]
    exact (hinner context.subject a).bind fun _ ↦ regular_ok _
  · exact regular_ok _

/-- **Evaluation complains about no expression.** -/
theorem IsStock.regular_evaluate (h : engine.IsStock) (context : Context) (expression : Value) :
    Regular (engine.evaluate context expression) := by
  induction context, expression using evaluate_induction engine with
  | notCall context expression hcall =>
    rw [evaluate_of_not_call hcall]
    exact regular_ok _
  | limit context expression hcall hdepth =>
    rw [evaluate_of_call_of_le hcall hdepth]
    rintro reason ⟨⟩
  | call context expression op written hcall hdepth ih =>
    have hop := h.mem_of_operation? (eq_of_call? hcall).1
    have hinner : ∀ subject e, Regular (engine.evaluate (context.withSubject subject) e) := by
      intro subject e
      exact ih _ e (Nat.lt_succ_self _)
    have hbelow : ∀ subject e,
        Regular ((engine.evaluatorBelow context).evaluate (context.withSubject subject) e) := by
      intro subject e
      rw [evaluate_evaluatorBelow]
      exact hinner subject e
    rw [evaluate_of_call hcall hdepth]
    refine (regular_callArguments hinner written).bind fun arguments ↦ ?_
    cases hcheck : Operation.checkArguments op.name op.parameters
        (op.prepare arguments context) with
    | error e =>
      obtain ⟨a, rfl⟩ := Operation.failsWithin_checkArguments _ _ _ e hcheck
      rw [Operation.invoke, hcheck, error_bind]
      rintro reason ⟨⟩
    | ok _ =>
      rw [Operation.invoke, hcheck, ok_bind]
      exact regular_handler hbelow hop (Operation.wellShaped_prepare hop hcheck)

end Evaluation

/-! ## Other handlers -/

/-- **What handlers do with arguments of another shape has no influence on an evaluation.** -/
theorem IsStock.evaluate_withHandlers {engine : Engine} (h : engine.IsStock)
    {handlers : Operation → Handler}
    (hhandlers : ∀ op ∈ stockOperations, ∀ arguments context evaluator,
      WellShaped op.name arguments →
        handlers op arguments context evaluator = op.handler arguments context evaluator)
    (context : Context) (expression : Value) :
    (engine.withHandlers handlers).evaluate context expression =
      engine.evaluate context expression := by
  -- the other handlers solve the equation of the engine, which has one solution only
  refine congrFun₂ (h.isEvaluation_iff.mp ?_) context expression
  intro context expression
  apply evaluate_withHandlers_eq_evaluateBy
  · intro _
    rfl
  · intro _ name op hop arguments hcheck
    have hmem := h.mem_of_operation? hop
    rw [hhandlers op hmem _ _ _ (Operation.wellShaped_prepare hmem hcheck)]
    exact handler_evaluatorBelow_withHandlers hmem (fun _ _ ↦ rfl) _

/-- **Faults in the shape of arguments are type errors.** An engine with operations of this library
complains about no expression. An invocation gives its handler well-shaped arguments or ends in a
type error; and with handlers that do anything else on other arguments, every evaluation has the
result that it has. -/
theorem IsStock.evaluate_ne_invalidExpression {engine : Engine} (h : engine.IsStock) :
    (∀ context expression reason,
      engine.evaluate context expression ≠ .error (.invalidExpression reason)) ∧
    (∀ op ∈ stockOperations, ∀ arguments context evaluator,
      WellShaped op.name (op.prepare arguments context) ∨
        ∃ a, op.invoke arguments context evaluator = .error (.argument a)) ∧
    ∀ handlers : Operation → Handler,
      (∀ op ∈ stockOperations, ∀ arguments context evaluator, WellShaped op.name arguments →
        handlers op arguments context evaluator = op.handler arguments context evaluator) →
      ∀ context expression,
        (engine.withHandlers handlers).evaluate context expression =
          engine.evaluate context expression := by
  refine ⟨fun context expression ↦ h.regular_evaluate context expression, ?_, ?_⟩
  · intro op hop arguments context evaluator
    exact Operation.wellShaped_or_invoke_eq_error hop arguments context evaluator
  · intro handlers hhandlers context expression
    exact h.evaluate_withHandlers hhandlers context expression

/-- Criteria that are computed, and are no object. -/
theorem evaluate_ne_invalidExpression_computedCriteria :
    let expression := Value.array [.string "$urlMatches", .array [.string "$value"]]
    (standard {}).IsStock ∧
      ∀ reason, (standard {}).evaluate (.root (.string "http://a/")) expression ≠
        .error (.invalidExpression reason) := by
  intro expression
  have hstock := isStock_standard {}
  exact ⟨hstock, hstock.evaluate_ne_invalidExpression.1 _ _⟩

end Engine

end UrlCalculus
