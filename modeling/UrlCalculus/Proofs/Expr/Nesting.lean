import UrlCalculus.Proofs.Expr.Questions
import UrlCalculus.Proofs.Json.Path

/-!
# Criteria inside criteria

An expectation may be a call that matches what stands at its path against criteria of its own. Such
criteria can be written flat: the paths inside go behind the path outside, with a dot in between.
Both find the same values, since a place that is not there counts as null and nothing stands inside
null.

Nested criteria take more room, for the call itself is one level of nesting: what they ask for is
evaluated two levels down, and in the flat form one level down. So the flat form may have an outcome
where the nested one runs out of depth, and otherwise there is no difference, as evaluation is blind
to depth.
-/

namespace UrlCalculus

/-- Criteria with their paths behind another one. -/
def criteriaBelow (path : String) (criteria : Entries) : Entries :=
  criteria.map fun pair ↦ (path ++ "." ++ pair.1, pair.2)

/-- Criteria behind a path are met by a value when they are met by what stands at the path. -/
theorem objectMatches_criteriaBelow {path : String} {criteria : Entries} (hpath : path ≠ "")
    (hcriteria : ∀ pair ∈ criteria, pair.1 ≠ "") (value : Value) (context : Context)
    (evaluator : Evaluator) :
    objectMatches (criteriaBelow path criteria) value context evaluator =
      objectMatches criteria ((value.resolve? path).getD .null) context evaluator := by
  induction criteria with
  | nil => rfl
  | cons pair rest ih =>
    obtain ⟨hpair, hrest⟩ := List.forall_mem_cons.mp hcriteria
    have hhead : objectMatches [(path ++ "." ++ pair.1, pair.2)] value context evaluator =
        objectMatches [pair] ((value.resolve? path).getD .null) context evaluator := by
      rw [objectMatches_singleton, objectMatches_singleton,
        Value.getD_resolve?_dot hpath hpair]
    rw [criteriaBelow, List.map_cons, ← criteriaBelow, objectMatches_cons, hhead, ih hrest,
      ← objectMatches_cons]

namespace Engine

variable {engine : Engine}

/-- A name that a stock engine knows is known as in this library. -/
theorem IsStock.operation?_of_contains (h : engine.IsStock) {name : String}
    (hcontains : engine.contains name = true) : engine.operation? name = stock? name := by
  refine (h.operation?_eq name).resolve_left fun hnone ↦ ?_
  rw [contains, hnone] at hcontains
  cases hcontains

/-- Whether a value meets the criteria of a call is what matching it against them gives. -/
theorem meets_matchingCall {context : Context}
    (hop : engine.operation? objectMatchesName = some objectMatchesOperation)
    (hdepth : context.depth + 1 < engine.config.maxDepth) (criteria : Entries) (value : Value) :
    meets engine.evaluator context value (matchingCall criteria) =
      objectMatches criteria value (context.withSubject value)
        (engine.evaluatorBelow (context.withSubject value)) := by
  have hcall : engine.evaluator.isExpression (matchingCall criteria) = true :=
    isExpression_of_operation? hop _
  have hevaluate : engine.evaluator.evaluate (context.withSubject value) (matchingCall criteria) =
      (do return .bool (← objectMatches criteria value (context.withSubject value)
        (engine.evaluatorBelow (context.withSubject value)))) :=
    evaluate_objectMatches_subject hop hdepth
  rw [meets_of_call rfl hcall, hevaluate]
  cases objectMatches criteria value _ _ <;> rfl

/-- Nested criteria give what the criteria inside give for what stands at the path outside, unless
they run out of depth. -/
theorem IsStock.refines_objectMatches_matchingCall (h : engine.IsStock)
    (hcontains : engine.contains objectMatchesName = true) (path : String) (criteria : Entries)
    (value : Value) (context : Context) :
    Refines (objectMatches [(path, matchingCall criteria)] value context engine.evaluator)
      (objectMatches criteria ((value.resolve? path).getD .null) context engine.evaluator) := by
  have hop : engine.operation? objectMatchesName = some objectMatchesOperation :=
    (h.operation?_of_contains hcontains).trans stock?_objectMatchesName
  rw [objectMatches_singleton]
  generalize (value.resolve? path).getD .null = inner
  by_cases hdepth : context.depth + 1 < engine.config.maxDepth
  · rw [meets_matchingCall hop hdepth]
    -- two levels down on the left, one level down on the right
    have hbelow : Evaluator.RefinesAt (engine.evaluatorBelow (context.withSubject inner))
        engine.evaluator (context.withSubject inner) context := by
      refine ⟨rfl, rfl, fun subject e ↦ ?_⟩
      have hevaluate : (engine.evaluatorBelow (context.withSubject inner)).evaluate
          ((context.withSubject inner).withSubject subject) e =
            engine.evaluate ((context.withSubject inner).withSubject subject) e :=
        if_pos (Nat.lt_succ_self _)
      have hdeeper : (context.withSubject subject).depth ≤
          ((context.withSubject inner).withSubject subject).depth := Nat.le_succ _
      have hsubject : (context.withSubject subject).subject =
          ((context.withSubject inner).withSubject subject).subject := rfl
      rw [hevaluate]
      exact h.refines_evaluate hsubject hdeeper e
    exact refines_objectMatches hbelow criteria inner
  · -- the call itself is at the limit
    have hcall : engine.evaluator.isExpression (matchingCall criteria) = true :=
      isExpression_of_operation? hop _
    have hlimit : engine.evaluator.evaluate (context.withSubject inner) (matchingCall criteria) =
        .error (.depthExceeded engine.config.maxDepth) :=
      evaluate_of_call_of_le hcall (Nat.le_of_not_lt hdepth)
    refine .inl ⟨engine.config.maxDepth, ?_⟩
    rw [meets_of_call rfl hcall, hlimit]
    rfl

/-- **Nested matching flattens to paths with dots.** In a stock engine that can match, an expectation
that matches against a pair of its own has the outcome of that pair with its path behind the outer
one, unless it runs out of depth. -/
theorem objectMatches_dot_of_nested (h : engine.IsStock)
    (hcontains : engine.contains objectMatchesName = true) {front back : String}
    (hfront : front ≠ "") (hback : back ≠ "") {value expected : Value} {context : Context}
    {r : Except Error Bool}
    (hresult : objectMatches
      [(front, .array [.string objectMatchesName, .object [(back, expected)]])] value context
        engine.evaluator = r)
    (hne : ∀ limit, r ≠ .error (.depthExceeded limit)) :
    objectMatches [(front ++ "." ++ back, expected)] value context engine.evaluator = r := by
  have hrefines :=
    h.refines_objectMatches_matchingCall hcontains front [(back, expected)] value context
  rw [matchingCall, hresult] at hrefines
  have hpairs : ∀ pair ∈ [(back, expected)], pair.1 ≠ "" := by simpa using hback
  have hflat := objectMatches_criteriaBelow hfront hpairs value context engine.evaluator
  exact hflat.trans (hrefines.eq_of_ne hne)

theorem objectMatches_dot_of_nested_through_array :
    let value := Value.object [("a", .array [.object [("b", .string "x")]])]
    (standard {}).IsStock ∧ (standard {}).contains objectMatchesName = true ∧ "a" ≠ "" ∧
      "0.b" ≠ "" ∧
      objectMatches [("a", .array [.string objectMatchesName, .object [("0.b", .string "x")]])]
        value (.root .null) (standard {}).evaluator = .ok true ∧
      objectMatches [("a.0.b", .string "x")] value (.root .null) (standard {}).evaluator =
        .ok true := by
  intro value
  have hcontains : (standard {}).contains objectMatchesName = true := by
    rw [contains, operation?_standard]
    rfl
  have hinner : (value.resolve? "a").getD .null = .array [.object [("b", .string "x")]] := rfl
  have hdepth : (Context.root .null).depth + 1 < (standard {}).config.maxDepth := by
    rw [config_standard]
    decide
  have hresult : objectMatches
      [("a", .array [.string objectMatchesName, .object [("0.b", .string "x")]])] value
        (.root .null) (standard {}).evaluator = .ok true := by
    rw [objectMatches_singleton, hinner]
    refine (meets_matchingCall (operation?_standard {} _) hdepth _ _).trans ?_
    rw [objectMatches_eq_ok_true_iff, List.forall_mem_singleton, fulfils_string_iff]
    decide
  exact ⟨isStock_standard {}, hcontains, by decide, by decide, hresult,
    objectMatches_dot_of_nested (isStock_standard {}) hcontains (by decide) (by decide) hresult
      (by simp)⟩

end Engine

end UrlCalculus
