import Mathlib.Data.List.Forall2
import UrlCalculus.Proofs.Expr.Handlers

/-!
# Negation and the connectives

A conjunction is evaluated up to the first operand that is not truthy, and a disjunction up to the
first one that is. An error ends either of them. So negating the operands turns the one into the
negation of the other, and that holds of errors as well: both stop at the same operand, and
whichever fails first is the same.

## Where the operands are evaluated

Negated from the outside, a connective is an argument, and its operands are evaluated two levels
down. With negated operands it is the call itself, its operands are one level down, and what they
negate is two levels down again. The depths agree operand by operand, so nothing has to be known
about the operands, and they may be calls of any operations at all, also of such that evaluate in
the context they are called in. Three unfoldings of the equation of evaluation bring the operands
out on both sides, and what is below is the same.

The list of operands is an argument too. It has to stand for itself: a list that begins with the
name of an operation is a call, and its value would be the list. Negated operands are arrays, so
their list always does.
-/

namespace UrlCalculus

namespace Value

/-- The call that negates an expression. -/
def negation (e : Value) : Value := .array [.string "$not", e]

/-- The call that asks for all of some expressions. -/
def conjunction (es : List Value) : Value := .array [.string "$and", .array es]

/-- The call that asks for one of some expressions. -/
def disjunction (es : List Value) : Value := .array [.string "$or", .array es]

end Value

/-! ## Operands with opposed outcomes -/

/-- Both outcomes are the same error, or one of two values is truthy and the other one is not. -/
def Opposed (r r' : Except Error Value) : Prop :=
  r'.map Value.truthy = (r.map Value.truthy).map not

section Opposed

variable {f f' : Value → Except Error Value} {es es' : List Value}

theorem map_not_map_not (r : Except Error Bool) : (r.map not).map not = r := by
  cases r with
  | error e => rfl
  | ok b => exact congrArg Except.ok (Bool.not_not b)

theorem Opposed.symm {r r' : Except Error Value} (h : Opposed r r') : Opposed r' r := by
  rw [Opposed, h, map_not_map_not]

/-- All that counts of an operand is its error or whether its value is truthy. -/
theorem allTruthy_cons (e : Value) :
    Builtin.allTruthy f (e :: es) = (do
      if ← (f e).map Value.truthy then Builtin.allTruthy f es else return false) := by
  rw [Builtin.allTruthy]
  cases f e <;> rfl

theorem anyTruthy_cons (e : Value) :
    Builtin.anyTruthy f (e :: es) = (do
      if ← (f e).map Value.truthy then return true else Builtin.anyTruthy f es) := by
  rw [Builtin.anyTruthy]
  cases f e <;> rfl

/-- A disjunction of opposed operands stops where the conjunction stops, at the same error or with
the opposite answer. -/
theorem anyTruthy_of_opposed (h : List.Forall₂ (fun e e' ↦ Opposed (f e) (f' e')) es es') :
    Builtin.anyTruthy f' es' = (Builtin.allTruthy f es).map not := by
  induction h with
  | nil => rfl
  | @cons e e' rest rest' he _ ih =>
    rw [anyTruthy_cons, allTruthy_cons, he, ih]
    cases (f e).map Value.truthy with
    | error error => rfl
    | ok truthy => cases truthy <;> rfl

/-- Being opposed goes both ways, and so does the law. -/
theorem allTruthy_of_opposed (h : List.Forall₂ (fun e e' ↦ Opposed (f e) (f' e')) es es') :
    Builtin.allTruthy f' es' = (Builtin.anyTruthy f es).map not := by
  have hflip : List.Forall₂ (fun e' e ↦ Opposed (f' e') (f e)) es' es :=
    List.Forall₂.flip (h.imp fun _ _ ↦ Opposed.symm)
  rw [anyTruthy_of_opposed hflip, map_not_map_not]

end Opposed

/-! ## Evaluating the calls -/

namespace Engine

/-- The operation that negates. -/
def negationOperation : Operation := .of "$not" [Builtin.anyValue] Builtin.negation

/-- The operation that asks for one of its operands. -/
def disjunctionOperation : Operation :=
  (Operation.of "$or" [⟨"expressions", .array⟩] Builtin.disjunction).withDefaultPlace none

theorem stock?_not : stock? "$not" = some negationOperation := rfl

theorem stock?_and : stock? "$and" = some conjunctionOperation := rfl

theorem stock?_or : stock? "$or" = some disjunctionOperation := rfl

variable {engine : Engine} {evaluate : Context → Value → Except Error Value} {context : Context}
  {es : List Value}

theorem evaluateBy_not (hnot : engine.operation? "$not" = some negationOperation)
    (hdepth : context.depth < engine.config.maxDepth) (e : Value) :
    engine.evaluateBy evaluate context e.negation =
      (evaluate context.descend e).map fun v ↦ .bool !v.truthy := by
  rw [Value.negation, evaluateBy_of_operation? hnot hdepth, Operation.argumentsBy_cons rfl,
    Operation.argumentsBy_nil rfl]
  rcases evaluate context.descend e with error | v <;> rfl

theorem evaluateBy_and (hand : engine.operation? "$and" = some conjunctionOperation)
    (hdepth : context.depth < engine.config.maxDepth)
    (hes : evaluate context.descend (.array es) = .ok (.array es)) :
    engine.evaluateBy evaluate context (.conjunction es) =
      (Builtin.allTruthy (evaluate context.descend) es).map .bool := by
  rw [Value.conjunction,
    evaluateBy_of_written hand hdepth (List.forall_mem_singleton.mpr hes)]
  rfl

theorem evaluateBy_or (hor : engine.operation? "$or" = some disjunctionOperation)
    (hdepth : context.depth < engine.config.maxDepth)
    (hes : evaluate context.descend (.array es) = .ok (.array es)) :
    engine.evaluateBy evaluate context (.disjunction es) =
      (Builtin.anyTruthy (evaluate context.descend) es).map .bool := by
  rw [Value.disjunction,
    evaluateBy_of_written hor hdepth (List.forall_mem_singleton.mpr hes)]
  rfl

/-! ## Duality -/

/-- An operand one level further down and its negation. -/
theorem opposed_negation (hnot : engine.operation? "$not" = some negationOperation)
    (hdepth : context.depth < engine.config.maxDepth) (e : Value) :
    Opposed (evaluate context.descend e) (engine.evaluateBy evaluate context e.negation) := by
  rw [Opposed, evaluateBy_not hnot hdepth]
  rcases evaluate context.descend e with error | v <;> rfl

theorem forall₂_opposed_negation (hnot : engine.operation? "$not" = some negationOperation)
    (hdepth : context.depth < engine.config.maxDepth) (es : List Value) :
    List.Forall₂ (fun e e' ↦
        Opposed (evaluate context.descend e) (engine.evaluateBy evaluate context e')) es
      (es.map Value.negation) := by
  rw [List.forall₂_map_right_iff, List.forall₂_same]
  intro e _
  exact opposed_negation hnot hdepth e

/-- Negated operands are arrays, so none of them is a name that makes their list a call. -/
theorem call?_map_negation (engine : Engine) (es : List Value) :
    engine.call? (.array (es.map Value.negation)) = none := by
  cases es <;> rfl

/-- Three unfoldings show the two connectives with the operands that they have in common. -/
theorem iterate_not_connective (hnot : engine.operation? "$not" = some negationOperation)
    (hand : engine.operation? "$and" = some conjunctionOperation)
    (hor : engine.operation? "$or" = some disjunctionOperation)
    (hdepth : context.depth + 1 < engine.config.maxDepth)
    (hes : engine.call? (.array es) = none)
    (evaluate : Context → Value → Except Error Value) :
    engine.evaluateBy^[3] evaluate context (Value.conjunction es).negation =
        engine.evaluateBy^[3] evaluate context (.disjunction (es.map .negation)) ∧
      engine.evaluateBy^[3] evaluate context (Value.disjunction es).negation =
        engine.evaluateBy^[3] evaluate context (.conjunction (es.map .negation)) := by
  have houter : context.depth < engine.config.maxDepth := Nat.lt_of_succ_lt hdepth
  have hinner : context.descend.depth < engine.config.maxDepth := hdepth
  -- the operands are two levels down on the left, and their negations one level down on the right
  have hopposed : List.Forall₂ (fun e e' ↦
      Opposed (engine.evaluateBy evaluate context.descend.descend e)
        (engine.evaluateBy (engine.evaluateBy evaluate) context.descend e')) es
      (es.map Value.negation) := forall₂_opposed_negation hnot hinner es
  have hnegated := call?_map_negation engine es
  rw [Function.iterate_succ_apply', Function.iterate_succ_apply', Function.iterate_one]
  constructor
  · rw [evaluateBy_not hnot houter, evaluateBy_and hand hinner (evaluateBy_of_not_call hes),
      evaluateBy_or hor houter (evaluateBy_of_not_call hnegated), anyTruthy_of_opposed hopposed]
    rcases Builtin.allTruthy (engine.evaluateBy evaluate context.descend.descend) es with
      error | b <;> rfl
  · rw [evaluateBy_not hnot houter, evaluateBy_or hor hinner (evaluateBy_of_not_call hes),
      evaluateBy_and hand houter (evaluateBy_of_not_call hnegated), allTruthy_of_opposed hopposed]
    rcases Builtin.anyTruthy (engine.evaluateBy evaluate context.descend.descend) es with
      error | b <;> rfl

/-- **Negation turns each connective into the other one.** The negation of a conjunction has the
outcome of the disjunction of the negated operands, and the negation of a disjunction that of the
conjunction, value or error, whatever the operands are, and whatever operations they call. -/
theorem sameOutcome_not_connective (hnot : engine.operation? "$not" = some negationOperation)
    (hand : engine.operation? "$and" = some conjunctionOperation)
    (hor : engine.operation? "$or" = some disjunctionOperation)
    (hdepth : context.depth + 1 < engine.config.maxDepth)
    (hes : engine.isExpression (.array es) = false) :
    engine.SameOutcome context (Value.conjunction es).negation
        (.disjunction (es.map .negation)) ∧
      engine.SameOutcome context (Value.disjunction es).negation
        (.conjunction (es.map .negation)) := by
  have hcall : engine.call? (.array es) = none := by
    rwa [isExpression, Option.isSome_eq_false_iff, Option.isNone_iff_eq_none] at hes
  have hiterate := iterate_not_connective hnot hand hor hdepth hcall
  constructor
  · apply SameOutcome.of_iterate_eq 3
    intro evaluate
    exact (hiterate evaluate).1
  · apply SameOutcome.of_iterate_eq 3
    intro evaluate
    exact (hiterate evaluate).2

/-- Operands that are no truth values, and one that evaluates in its own context and has a value. -/
theorem sameOutcome_not_connective_lookingUp :
    let context := Context.root (.string "subject")
    let asked := Value.array [.string "$valueOr", .string "a"]
    let es := [.object [], asked, .string ""]
    lookingUp.operation? "$not" = some negationOperation ∧
      lookingUp.operation? "$and" = some conjunctionOperation ∧
      lookingUp.operation? "$or" = some disjunctionOperation ∧
      context.depth + 1 < lookingUp.config.maxDepth ∧
      lookingUp.isExpression (.array es) = false ∧
      lookingUp.IsEvaluation lookedUp ∧
      lookedUp context.descend.descend asked = .ok (.string "subject") ∧
      lookedUp context (Value.conjunction es).negation =
        lookedUp context (.disjunction (es.map .negation)) ∧
      lookedUp context (Value.disjunction es).negation =
        lookedUp context (.conjunction (es.map .negation)) := by
  intro context asked es
  have hnot := (operation?_lookingUp "$not").trans stock?_not
  have hand := (operation?_lookingUp "$and").trans stock?_and
  have hor := (operation?_lookingUp "$or").trans stock?_or
  have hdepth : context.depth + 1 < lookingUp.config.maxDepth := by
    rw [config_lookingUp]
    decide
  have hes : lookingUp.isExpression (.array es) = false := rfl
  have hasked : lookingUp.Returns context.descend.descend asked (.ok (.string "subject")) := by
    apply returns_valueOr
    · rw [config_lookingUp]
      decide
    · rfl
  obtain ⟨hconjunction, hdisjunction⟩ := sameOutcome_not_connective hnot hand hor hdepth hes
  exact ⟨hnot, hand, hor, hdepth, hes, isEvaluation_lookedUp,
    isEvaluation_lookedUp.eq_of_returns hasked,
    hconjunction.evaluation lookedUp isEvaluation_lookedUp,
    hdisjunction.evaluation lookedUp isEvaluation_lookedUp⟩

end Engine

end UrlCalculus
