import UrlCalculus.Proofs.Expr.Handlers

/-!
# Leaving the subject out

The subject stands in for the argument in the default place when a call ends before that place. All
that is asked of the operation is that it has a parameter there, since arguments are padded up to the
last parameter and not beyond. Then the handler is given what it would be given if an expression with
the subject as its value were written in that place.

So the argument may be written or not, and nothing tells the two calls apart. The arguments in front
are evaluated first in both, so an error in one of them wins in both; the check of the types sees
the same arguments, so a subject of the wrong kind is refused in the same words; and a subject that
looks like a call is not evaluated in either. What the handler then does with its context and its
evaluator is done in both, so the two calls have the same outcome in every sense.
-/

namespace UrlCalculus

namespace Operation

variable {op : Operation} {arguments : Arguments} {context : Context}

/-- One more argument takes the place of one that is absent. -/
theorem pad_eq_append (hlt : arguments.length < op.parameters.length) :
    op.pad arguments = arguments ++
      none :: List.replicate (op.parameters.length - (arguments.length + 1)) none := by
  have hsucc : op.parameters.length - arguments.length =
      op.parameters.length - (arguments.length + 1) + 1 := by omega
  rw [pad, hsucc, List.replicate_succ]

theorem pad_concat (a : Option Value) :
    op.pad (arguments ++ [a]) = arguments ++
      a :: List.replicate (op.parameters.length - (arguments.length + 1)) none := by
  rw [pad, List.length_append, List.length_singleton, List.append_assoc, List.singleton_append]

/-- Filling in the argument behind some others. -/
theorem fillDefault_append (hplace : op.defaultPlace = some arguments.length) (subject : Value)
    (a : Option Value) (rest : Arguments) :
    op.fillDefault subject (arguments ++ a :: rest) =
      arguments ++ (a.orElse fun _ ↦ some subject) :: rest := by
  rw [fillDefault, hplace]
  simp [List.modify_eq_take_drop]

/-- **The subject may be added to the arguments that end before its place.** -/
theorem prepare_concat_subject (hplace : op.defaultPlace = some arguments.length)
    (hlt : arguments.length < op.parameters.length) :
    op.prepare (arguments ++ [some context.subject]) context = op.prepare arguments context := by
  rw [prepare, prepare, pad_concat, pad_eq_append hlt, fillDefault_append hplace,
    fillDefault_append hplace]
  rfl

end Operation

/-- An argument behind others is evaluated after them. -/
theorem Operation.argumentsBy_concat {evaluate : Context → Value → Except Error Value}
    {op : Operation} {context : Context} (heager : op.evaluatesArguments = true)
    (written : List Value) (e : Value) :
    op.argumentsBy evaluate context (written ++ [e]) = (do
      let arguments ← op.argumentsBy evaluate context written
      let v ← evaluate context.descend e
      return arguments ++ [some v]) := by
  rw [argumentsBy, argumentsBy, if_pos heager, if_pos heager, List.mapM_append]
  apply bind_congr
  intro arguments
  rw [List.mapM_cons, List.mapM_nil]
  rcases evaluate context.descend e with error | v <;> rfl

namespace Engine

variable {engine : Engine} {evaluate : Context → Value → Except Error Value} {context : Context}
  {name : String} {op : Operation} {written : List Value}

/-- An argument that has the subject as its value may be left out in the default place. -/
theorem evaluateBy_concat_of_subject (hop : engine.operation? name = some op)
    (heager : op.evaluatesArguments = true) (hplace : op.defaultPlace = some written.length)
    (hlt : written.length < op.parameters.length) (hdepth : context.depth < engine.config.maxDepth)
    {e : Value} (he : evaluate context.descend e = .ok context.subject) :
    engine.evaluateBy evaluate context (.array (.string name :: (written ++ [e]))) =
      engine.evaluateBy evaluate context (.array (.string name :: written)) := by
  rw [evaluateBy_of_operation? hop hdepth, evaluateBy_of_operation? hop hdepth,
    Operation.argumentsBy_concat heager]
  rcases harguments : op.argumentsBy evaluate context written with error | arguments
  · rfl
  · rw [← Operation.length_of_argumentsBy harguments] at hplace hlt
    rw [ok_bind, he, ok_bind, pure_eq_ok, ok_bind, ok_bind, Operation.invoke, Operation.invoke,
      Operation.prepare_concat_subject hplace hlt]

/-- **Leaving the default argument out is passing the subject.** Where access to the subject is what
it is in this library, a call of an operation that evaluates its arguments, ending right before the
default place, has the outcome of the call with the subject in that place, value or error, whatever
the operation does with what it is given. -/
theorem sameOutcome_concat_value (hvalue : engine.operation? "$value" = some valueOperation)
    (hop : engine.operation? name = some op) (heager : op.evaluatesArguments = true)
    {place : Nat} (hplace : op.defaultPlace = some place) (hlt : place < op.parameters.length)
    (hwritten : written.length = place) (hdepth : context.depth + 1 < engine.config.maxDepth) :
    engine.SameOutcome context
      (.array (.string name :: (written ++ [.array [.string "$value"]])))
      (.array (.string name :: written)) := by
  subst hwritten
  apply SameOutcome.of_iterate_eq 2
  intro evaluate
  have hsubject : engine.evaluateBy evaluate context.descend (.array [.string "$value"]) =
      .ok context.subject := evaluateBy_value hvalue hdepth
  rw [Function.iterate_succ_apply', Function.iterate_one]
  exact evaluateBy_concat_of_subject hop heager hplace hlt (Nat.lt_of_succ_lt hdepth) hsubject

/-- The default place need not be the last one, the subject may look like a call, and the operation
may evaluate in its own context. -/
theorem sameOutcome_concat_value_lookingUp :
    let context := Context.root (.array [.string "$not", .bool true])
    let path := Value.string "a"
    lookingUp.operation? "$value" = some valueOperation ∧
      lookingUp.operation? "$valueOr" = some valueOrOperation ∧
      valueOrOperation.evaluatesArguments = true ∧ valueOrOperation.defaultPlace = some 1 ∧
      1 < valueOrOperation.parameters.length ∧ [path].length = 1 ∧
      context.depth + 1 < lookingUp.config.maxDepth ∧ lookingUp.IsEvaluation lookedUp ∧
      lookedUp context (.array [.string "$valueOr", path]) = .ok context.subject ∧
      lookedUp context (.array (.string "$valueOr" :: ([path] ++ [.array [.string "$value"]]))) =
        lookedUp context (.array [.string "$valueOr", path]) := by
  intro context path
  have hvalue := operation?_lookingUp "$value"
  have hop := operation?_lookingUp "$valueOr"
  have hlt : 1 < valueOrOperation.parameters.length := by decide
  have hdepth : context.depth + 1 < lookingUp.config.maxDepth := by
    rw [config_lookingUp]
    decide
  have hreturns : lookingUp.Returns context (.array [.string "$valueOr", path])
      (.ok context.subject) := returns_valueOr (Nat.lt_of_succ_lt hdepth) rfl
  have hlength : [path].length = 1 := rfl
  have hsame := sameOutcome_concat_value hvalue hop rfl rfl hlt hlength hdepth
  exact ⟨hvalue, hop, rfl, rfl, hlt, hlength, hdepth, isEvaluation_lookedUp,
    isEvaluation_lookedUp.eq_of_returns hreturns,
    hsame.evaluation lookedUp isEvaluation_lookedUp⟩

end Engine

end UrlCalculus
