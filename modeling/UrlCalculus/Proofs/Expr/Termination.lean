import UrlCalculus.Proofs.Expr.Dialogue
import UrlCalculus.Proofs.Expr.Matching

/-!
# Runs end

A run of an expression follows its dialogue and answers every question by a run of the expression
asked about. `Engine.Run` is inductive, so a run is finite by itself; what there is to prove is that
every evaluation has one. Expressions do not get smaller on the way, since a conjunction evaluates
whatever its argument evaluates to, and that may come from the subject. What gets smaller is the
room between the depth and the limit.

The engine itself refuses inner evaluations that are not deeper than the call they are made for. For
the operations of this library that guard is never needed: their engine satisfies the equation of
evaluation without it, and nothing else does. What the guard means for other operations is said in
`UrlCalculus.Proofs.Expr.Handlers`.
-/

namespace UrlCalculus

namespace Engine

/-! ## Evaluation without the guard -/

section Guard

variable {engine : Engine} {context : Context}

/-- What evaluation comes to, answered by the engine without any guard, is its value. -/
theorem IsStock.run_evaluation_evaluate (h : engine.IsStock) (context : Context)
    (expression : Value) :
    (engine.evaluation context expression).run engine.evaluate =
      engine.evaluate context expression := by
  rw [evaluate_eq_evaluateBy_below, ← h.run_evaluation]
  refine (engine.within_evaluation context expression).run_congr (List.forall_mem_nil _) ?_
  intro c hc
  funext e
  exact (if_pos (Nat.lt_of_succ_le (Nat.le_of_eq hc.1.symm))).symm

/-- **An engine with operations of this library needs no guard.** -/
theorem IsStock.isEvaluation_evaluate (h : engine.IsStock) :
    engine.IsEvaluation engine.evaluate := by
  intro context expression
  rw [← h.run_evaluation, h.run_evaluation_evaluate]

/-- One unfolding for each level of room, and one more, leave no inner evaluation open. -/
theorem IsStock.iterate_evaluateBy (h : engine.IsStock)
    (bottom : Context → Value → Except Error Value) (context : Context) (expression : Value) :
    engine.evaluateBy^[engine.config.maxDepth - context.depth + 1] bottom context expression =
      engine.evaluate context expression := by
  induction hn : engine.config.maxDepth - context.depth using Nat.strongRecOn
    generalizing context expression with
  | _ n ih =>
    rw [Function.iterate_succ_apply', ← h.run_evaluation, ← h.run_evaluation_evaluate]
    refine (engine.within_evaluation context expression).run_congr (List.forall_mem_nil _) ?_
    rintro c ⟨hdeeper, hlimit⟩
    funext e
    obtain ⟨k, rfl⟩ : ∃ k, n = k + 1 := ⟨n - 1, by omega⟩
    exact ih k (Nat.lt_succ_self k) c e (by omega)

theorem IsStock.returns_evaluate (h : engine.IsStock) (context : Context) (expression : Value) :
    engine.Returns context expression (engine.evaluate context expression) :=
  ⟨_, fun bottom ↦ h.iterate_evaluateBy bottom context expression⟩

/-- **It has no other evaluation.** -/
theorem IsStock.isEvaluation_iff (h : engine.IsStock)
    {evaluate : Context → Value → Except Error Value} :
    engine.IsEvaluation evaluate ↔ evaluate = engine.evaluate := by
  constructor
  · intro hevaluation
    funext context expression
    exact hevaluation.eq_of_returns (h.returns_evaluate context expression)
  · rintro rfl
    exact h.isEvaluation_evaluate

end Guard

/-! ## Runs -/

/-- What happens in a run: a context is created for a call in another one, and perhaps an expression
is evaluated in it. -/
structure Event where
  caller : Context
  context : Context
  expression : Option Value

/-- The rest of an evaluation in a context, with its result and all that happens, in order. -/
inductive Run (engine : Engine) :
    Context → Dialogue Value → Except Error Value → List Event → Prop where
  | done {c : Context} (result : Except Error Value) : Run engine c (.done result) result []
  | create {c inner : Context} {next : Dialogue Value} {result : Except Error Value}
      {events : List Event} :
      Run engine c next result events →
      Run engine c (.create inner next) result (⟨c, inner, none⟩ :: events)
  | failed {c inner : Context} {e : Value} {next : Value → Dialogue Value} {error : Error}
      {events : List Event} :
      Run engine inner (engine.evaluation inner e) (.error error) events →
      Run engine c (.ask inner e next) (.error error) (⟨c, inner, some e⟩ :: events)
  | answered {c inner : Context} {e v : Value} {next : Value → Dialogue Value}
      {result : Except Error Value} {events later : List Event} :
      Run engine inner (engine.evaluation inner e) (.ok v) events →
      Run engine c (next v) result later →
      Run engine c (.ask inner e next) result (⟨c, inner, some e⟩ :: events ++ later)

section Runs

variable {engine : Engine} {context : Context} {dialogue : Dialogue Value}
  {result result' : Except Error Value} {events events' : List Event}

/-- There is at most one run. -/
theorem Run.unique (h : engine.Run context dialogue result events)
    (h' : engine.Run context dialogue result' events') : result' = result ∧ events' = events := by
  induction h generalizing result' events' with
  | done result =>
    cases h'
    exact ⟨rfl, rfl⟩
  | create _ ih =>
    cases h' with
    | create h' =>
      obtain ⟨rfl, rfl⟩ := ih h'
      exact ⟨rfl, rfl⟩
  | failed _ ih =>
    cases h' with
    | failed h' =>
      obtain ⟨hresult, rfl⟩ := ih h'
      exact ⟨hresult, rfl⟩
    | answered h' _ => cases (ih h').1
  | answered _ _ ih ihlater =>
    cases h' with
    | failed h' => cases (ih h').1
    | answered h' hlater' =>
      obtain ⟨hv, rfl⟩ := ih h'
      cases hv
      obtain ⟨rfl, rfl⟩ := ihlater hlater'
      exact ⟨rfl, rfl⟩

/-- Where every inner evaluation has a run, so has the whole. -/
theorem exists_run_of_within {p : Context → Prop} {created : List Context}
    (hd : dialogue.Within p created) (hcreated : ∀ c ∈ created, p c)
    (hrun : ∀ c, p c → ∀ e, ∃ events,
      engine.Run c (engine.evaluation c e) (engine.evaluate c e) events) :
    ∃ events, engine.Run context dialogue (dialogue.run engine.evaluate) events := by
  induction hd with
  | done result => exact ⟨[], .done result⟩
  | create hc _ ih =>
    obtain ⟨events, h⟩ := ih (List.forall_mem_cons.mpr ⟨hc, hcreated⟩)
    exact ⟨_, .create h⟩
  | ask e hc _ ih =>
    obtain ⟨events, h⟩ := hrun _ (hcreated _ hc) e
    rw [Dialogue.run]
    cases hvalue : engine.evaluate _ e with
    | error error =>
      rw [hvalue] at h
      exact ⟨_, .failed h⟩
    | ok v =>
      rw [hvalue] at h
      obtain ⟨later, hlater⟩ := ih v hcreated
      exact ⟨_, .answered h hlater⟩

/-- Every evaluation has a run, and it ends with the value. -/
theorem IsStock.exists_run (h : engine.IsStock) (context : Context) (expression : Value) :
    ∃ events, engine.Run context (engine.evaluation context expression)
      (engine.evaluate context expression) events := by
  -- the induction is on the room below the limit
  induction hn : engine.config.maxDepth - context.depth using Nat.strongRecOn
    generalizing context expression with
  | _ n ih =>
    rw [← h.run_evaluation_evaluate]
    refine exists_run_of_within (engine.within_evaluation context expression)
      (List.forall_mem_nil _) ?_
    rintro c ⟨hdeeper, hlimit⟩ e
    exact ih _ (by omega) c e rfl

/-- A run goes down one level at a time, and not beyond the limit. -/
theorem Run.below_of_mem {created : List Context} (h : engine.Run context dialogue result events)
    (hd : dialogue.Within (engine.Below context) created)
    (hcreated : ∀ c ∈ created, engine.Below context c) :
    ∀ event ∈ events, engine.Below event.caller event.context := by
  induction h generalizing created with
  | done result => exact List.forall_mem_nil _
  | create _ ih =>
    rcases hd with - | ⟨hc, hnext⟩
    have hall := List.forall_mem_cons.mpr ⟨hc, hcreated⟩
    exact List.forall_mem_cons.mpr ⟨hc, ih hnext hall⟩
  | failed _ ih =>
    rcases hd with - | - | ⟨e, hc, -⟩
    have hinner := ih (engine.within_evaluation _ _) (List.forall_mem_nil _)
    exact List.forall_mem_cons.mpr ⟨hcreated _ hc, hinner⟩
  | answered _ _ ih ihlater =>
    rcases hd with - | - | ⟨e, hc, hnext⟩
    have hinner := ih (engine.within_evaluation _ _) (List.forall_mem_nil _)
    have hlater := ihlater (hnext _) hcreated
    exact List.forall_mem_cons.mpr
      ⟨hcreated _ hc, List.forall_mem_append.mpr ⟨hinner, hlater⟩⟩

end Runs

/-! ## A run that goes down to the limit -/

section SelfReproducing

variable {engine : Engine} {context : Context}

def valueOperation : Operation :=
  (Operation.of "$value" [⟨"path", .optional .string⟩] Builtin.value).withDefaultPlace none

def conjunctionOperation : Operation :=
  (Operation.of "$and" [⟨"expressions", .array⟩] Builtin.conjunction).withDefaultPlace none

/-- The conjunction of what the subject lists. About a subject that lists just this expression it
asks for its own value. -/
def conjunctionOfSubject : Value :=
  .array [.string "$and", .array [.string "$value"]]

theorem evaluateBy_value {evaluate : Context → Value → Except Error Value}
    (hop : engine.operation? "$value" = some valueOperation)
    (hdepth : context.depth < engine.config.maxDepth) :
    engine.evaluateBy evaluate context (.array [.string "$value"]) = .ok context.subject := by
  rw [evaluateBy_of_operation? hop hdepth, Operation.argumentsBy_nil rfl]
  rfl

theorem evaluate_value (hop : engine.operation? "$value" = some valueOperation)
    (hdepth : context.depth < engine.config.maxDepth) :
    engine.evaluate context (.array [.string "$value"]) = .ok context.subject := by
  rw [evaluate_eq_evaluateBy_below, evaluateBy_value hop hdepth]

theorem invoke_conjunctionOperation (es : List Value) (context : Context) (evaluator : Evaluator) :
    conjunctionOperation.invoke [some (.array es)] context evaluator =
      (do return .bool (← Builtin.allTruthy (evaluator.evaluate context.descend) es)) := by
  rfl

/-- **An expression that asks for its own value ends at the limit.** -/
theorem evaluate_conjunctionOfSubject (hand : engine.operation? "$and" = some conjunctionOperation)
    (hvalue : engine.operation? "$value" = some valueOperation)
    (hsubject : context.subject = .array [conjunctionOfSubject]) :
    engine.evaluate context conjunctionOfSubject =
      .error (.depthExceeded engine.config.maxDepth) := by
  have hlimit {c : Context} {e : Value} (he : engine.isExpression e = true)
      (hc : ¬c.depth < engine.config.maxDepth) :
      engine.evaluate c e = .error (.depthExceeded engine.config.maxDepth) :=
    evaluate_of_call_of_le he (Nat.le_of_not_lt hc)
  induction hn : engine.config.maxDepth - context.depth generalizing context with
  | zero =>
    refine hlimit ?_ (by omega)
    rw [conjunctionOfSubject, isExpression, call?, hand]
    rfl
  | succ n ih =>
    rw [conjunctionOfSubject, evaluate_of_operation? hand (by omega), callArguments_cons rfl,
      callArguments_nil rfl]
    by_cases hdepth : context.descend.depth < engine.config.maxDepth
    · -- the argument is the subject, whose one item is evaluated one level down
      have hinner : (engine.evaluatorBelow context).evaluate context.descend
          conjunctionOfSubject = .error (.depthExceeded engine.config.maxDepth) := by
        rw [evaluate_evaluatorBelow_descend]
        exact ih hsubject (by simp only [Context.depth_descend]; omega)
      rw [evaluate_value hvalue hdepth, Context.subject_descend, hsubject]
      change conjunctionOperation.invoke [some (.array [conjunctionOfSubject])] context _ = _
      rw [invoke_conjunctionOperation, Builtin.allTruthy, hinner]
      rfl
    · rw [hlimit _ hdepth]
      · rfl
      · exact isExpression_of_operation? hvalue _

end SelfReproducing

/-- **Every evaluation ends.** It satisfies the equation of evaluation without a guard, and it has
exactly one run, which is finite and ends with the value. In the run each context is one level below
the one it is created for, and none is beyond the limit. -/
theorem IsStock.exists_unique_run {engine : Engine} (h : engine.IsStock) (context : Context)
    (expression : Value) :
    engine.evaluate context expression =
        engine.evaluateBy engine.evaluate context expression ∧
      (∀ evaluate, (engine.evaluation context expression).run evaluate =
        engine.evaluateBy evaluate context expression) ∧
      ∃ events,
        engine.Run context (engine.evaluation context expression)
            (engine.evaluate context expression) events ∧
          (∀ result events',
            engine.Run context (engine.evaluation context expression) result events' →
              result = engine.evaluate context expression ∧ events' = events) ∧
          ∀ event ∈ events, event.context.depth = event.caller.depth + 1 ∧
            event.context.depth ≤ engine.config.maxDepth := by
  obtain ⟨events, hrun⟩ := h.exists_run context expression
  refine ⟨h.isEvaluation_evaluate context expression, fun _ ↦ h.run_evaluation expression,
    events, hrun, fun _ _ h' ↦ hrun.unique h', ?_⟩
  exact hrun.below_of_mem (engine.within_evaluation context expression) (List.forall_mem_nil _)

theorem exists_unique_run_conjunctionOfSubject :
    let context := Context.root (.array [conjunctionOfSubject])
    (standard {}).IsStock ∧
      ∃ events,
        (standard {}).Run context ((standard {}).evaluation context conjunctionOfSubject)
            (.error (.depthExceeded standardMaxDepth)) events ∧
          ∀ event ∈ events, event.context.depth = event.caller.depth + 1 ∧
            event.context.depth ≤ standardMaxDepth := by
  intro context
  have hresult : (standard {}).evaluate context conjunctionOfSubject =
      .error (.depthExceeded (standard {}).config.maxDepth) :=
    evaluate_conjunctionOfSubject (operation?_standard _ _) (operation?_standard _ _) rfl
  obtain ⟨-, -, events, hrun, -, hdepth⟩ :=
    (isStock_standard {}).exists_unique_run context conjunctionOfSubject
  rw [hresult, config_standard] at hrun
  rw [config_standard] at hdepth
  exact ⟨isStock_standard {}, events, hrun, hdepth⟩

end Engine

end UrlCalculus
