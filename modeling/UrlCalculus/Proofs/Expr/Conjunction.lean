import UrlCalculus.Expr.Criteria
import UrlCalculus.Proofs.Outcome

/-!
# Criteria as conjunctions

Pairs are tried in order, and the first one that is not met, or that fails, settles the outcome. So
criteria in two parts are the first part and then the second one, and they are met when each pair
alone is met.

A conjunction does not depend on the order of its parts, but here an order counts in one way: where
one pair is not met and another one fails, the outcome is that of the pair that comes first. Between
orders that do not fail there is no difference, and criteria that are met are met in every order.

Nothing is asked of the evaluator: the handlers of an engine, the engine itself and any other
evaluator match in the same way.
-/

namespace UrlCalculus

variable {criteria : Entries} {value : Value} {context : Context} {evaluator : Evaluator}

/-! ## One expectation -/

section Meets

variable {expected quoted : Value}

theorem meets_of_quoted (h : expected.quoted? = some quoted) :
    meets evaluator context value expected = .ok (value.same quoted) := by
  rw [meets, h]

theorem meets_of_plain (h : expected.quoted? = none)
    (hplain : evaluator.isExpression expected = false) :
    meets evaluator context value expected = .ok (value.same expected) := by
  rw [meets, h]
  exact if_neg (Bool.eq_false_iff.mp hplain)

theorem meets_of_call (h : expected.quoted? = none)
    (hcall : evaluator.isExpression expected = true) :
    meets evaluator context value expected = (do
      return (← evaluator.evaluate (context.withSubject value) expected).truthy) := by
  rw [meets, h]
  exact if_pos hcall

end Meets

/-! ## All of them -/

@[simp]
theorem objectMatches_nil : objectMatches [] value context evaluator = .ok true := rfl

/-- One pair is matched by what stands at its path, null where the path leads nowhere. -/
theorem objectMatches_singleton (path : String) (expected : Value) :
    objectMatches [(path, expected)] value context evaluator =
      meets evaluator context ((value.resolve? path).getD .null) expected := by
  rw [objectMatches, objectMatches_nil]
  cases meets evaluator context ((value.resolve? path).getD .null) expected with
  | error e => rfl
  | ok met => cases met <;> rfl

/-- Go on with a second part where the first one is met. -/
def andThen (first second : Except Error Bool) : Except Error Bool := do
  if ← first then second else return false

@[simp]
theorem andThen_true (second : Except Error Bool) : andThen (.ok true) second = second := rfl

theorem andThen_of_ne {first : Except Error Bool} (h : first ≠ .ok true)
    (second : Except Error Bool) : andThen first second = first := by
  rcases first with e | met
  · rfl
  · cases met with
    | false => rfl
    | true => exact absurd rfl h

theorem andThen_eq_ok_true_iff {first second : Except Error Bool} :
    andThen first second = .ok true ↔ first = .ok true ∧ second = .ok true := by
  by_cases h : first = .ok true
  · rw [h, andThen_true, and_iff_right rfl]
  · rw [andThen_of_ne h, iff_false_left h]
    exact fun hboth ↦ h hboth.1

theorem andThen_assoc (first second third : Except Error Bool) :
    andThen (andThen first second) third = andThen first (andThen second third) := by
  by_cases h : first = .ok true
  · rw [h, andThen_true, andThen_true]
  · rw [andThen_of_ne h, andThen_of_ne h, andThen_of_ne h]

theorem objectMatches_cons (pair : String × Value) (rest : Entries) :
    objectMatches (pair :: rest) value context evaluator =
      andThen (objectMatches [pair] value context evaluator)
        (objectMatches rest value context evaluator) := by
  rw [objectMatches_singleton]
  rfl

/-- Criteria in two parts. -/
theorem objectMatches_append (front back : Entries) :
    objectMatches (front ++ back) value context evaluator =
      andThen (objectMatches front value context evaluator)
        (objectMatches back value context evaluator) := by
  induction front with
  | nil => rfl
  | cons pair rest ih =>
    rw [List.cons_append, objectMatches_cons, ih, ← andThen_assoc, ← objectMatches_cons]

theorem objectMatches_eq_ok_true_iff_forall :
    objectMatches criteria value context evaluator = .ok true ↔
      ∀ pair ∈ criteria, objectMatches [pair] value context evaluator = .ok true := by
  induction criteria with
  | nil => simp
  | cons pair rest ih => rw [objectMatches_cons, andThen_eq_ok_true_iff, List.forall_mem_cons, ih]

theorem objectMatches_perm {other : Entries} (h : criteria.Perm other)
    (htrue : objectMatches criteria value context evaluator = .ok true) :
    objectMatches other value context evaluator = .ok true := by
  rw [objectMatches_eq_ok_true_iff_forall] at htrue ⊢
  exact fun pair hpair ↦ htrue pair (h.mem_iff.mpr hpair)

/-- **Matching is a conjunction.** Criteria are met when each of their pairs is; in two parts they
have the outcome of the first one unless that is met, and then that of the second one; and in two
orders they have the same outcome if both have one, and are met in the one if in the other. -/
theorem objectMatches_conjunction (value : Value) (context : Context) (evaluator : Evaluator) :
    (∀ criteria : Entries, objectMatches criteria value context evaluator = .ok true ↔
      ∀ pair ∈ criteria, objectMatches [pair] value context evaluator = .ok true) ∧
    (∀ front back : Entries,
      (objectMatches front value context evaluator = .ok true →
        objectMatches (front ++ back) value context evaluator =
          objectMatches back value context evaluator) ∧
      (objectMatches front value context evaluator ≠ .ok true →
        objectMatches (front ++ back) value context evaluator =
          objectMatches front value context evaluator)) ∧
    ∀ criteria other : Entries, criteria.Perm other →
      (objectMatches criteria value context evaluator = .ok true →
        objectMatches other value context evaluator = .ok true) ∧
      ∀ met met', objectMatches criteria value context evaluator = .ok met →
        objectMatches other value context evaluator = .ok met' → met = met' := by
  refine ⟨fun criteria ↦ objectMatches_eq_ok_true_iff_forall, fun front back ↦ ⟨?_, ?_⟩,
    fun criteria other hperm ↦ ⟨objectMatches_perm hperm, ?_⟩⟩
  · intro hfront
    rw [objectMatches_append, hfront, andThen_true]
  · intro hfront
    rw [objectMatches_append, andThen_of_ne hfront]
  · intro met met' hmet hmet'
    cases met with
    | true => exact Except.ok.inj ((objectMatches_perm hperm hmet).symm.trans hmet')
    | false =>
      -- were the other order met, so would be this one
      cases met' with
      | false => rfl
      | true => exact Except.ok.inj (hmet.symm.trans (objectMatches_perm hperm.symm hmet'))

/-- Of a pair that is not met and one that fails, the first one settles the outcome. -/
example :
    let failing : Evaluator :=
      { evaluate := fun _ _ ↦ .error .missingHost, isExpression := Value.isNull }
    objectMatches [("a", .bool true), ("b", .null)] .null (.root .null) failing = .ok false ∧
      objectMatches [("b", .null), ("a", .bool true)] .null (.root .null) failing =
        .error .missingHost :=
  ⟨rfl, rfl⟩

end UrlCalculus
