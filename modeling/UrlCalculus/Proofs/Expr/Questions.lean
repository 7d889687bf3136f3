import UrlCalculus.Proofs.Expr.Matching

/-!
# What a call depends on

A handler of this library asks its evaluator about four sorts of things only: the items of its first
argument if that is an array, and if it is an object, whether the expectations in it are calls, what
they evaluate to about some value, and whether the record of a URL is matched by it. Two evaluators
that agree on these give the same answer, and the subject of the context plays no part in it but
through `$value` and through arguments that were left out.

So two evaluations of one call agree as soon as the evaluations for it do: those of its arguments,
and those that its handler asks for. `Engine.evaluate_congr` says this of two engines that need not
be the same.
-/

namespace UrlCalculus

/-! ## Handlers -/

/-- The call that a match of a record is asked for with. -/
def matchingCall (criteria : Entries) : Value :=
  .array [.string objectMatchesName, .object criteria]

/-- All that the handlers of this library ask their evaluator about, two evaluators in two contexts
answer alike. -/
structure Evaluator.Agrees (evaluator evaluator' : Evaluator) (context context' : Context)
    (arguments : Arguments) : Prop where
  defaultBase : evaluator'.defaultBase = evaluator.defaultBase
  item : ∀ items, argument? arguments 0 = some (.array items) → ∀ e ∈ items,
    evaluator'.evaluate context'.descend e = evaluator.evaluate context.descend e
  isExpression : ∀ criteria, argument? arguments 0 = some (.object criteria) →
    ∀ pair ∈ criteria, evaluator'.isExpression pair.2 = evaluator.isExpression pair.2
  expectation : ∀ criteria, argument? arguments 0 = some (.object criteria) →
    ∀ pair ∈ criteria, ∀ v, v = Engine.valueAt (argumentOrNull arguments 1) pair.1 →
      evaluator'.evaluate (context'.withSubject v) pair.2 =
        evaluator.evaluate (context.withSubject v) pair.2
  record : ∀ criteria, argument? arguments 0 = some (.object criteria) → ∀ record : Record,
    evaluator'.evaluate (context'.withSubject record.toValue) (matchingCall criteria) =
      evaluator.evaluate (context.withSubject record.toValue) (matchingCall criteria)

section Handlers

variable {evaluator evaluator' : Evaluator} {context context' : Context} {arguments : Arguments}

theorem allTruthy_congr {f f' : Value → Except Error Value} {es : List Value}
    (h : ∀ e ∈ es, f' e = f e) : Builtin.allTruthy f' es = Builtin.allTruthy f es := by
  induction es with
  | nil => rfl
  | cons e rest ih =>
    rw [List.forall_mem_cons] at h
    rw [Builtin.allTruthy, Builtin.allTruthy, h.1, ih h.2]

theorem anyTruthy_congr {f f' : Value → Except Error Value} {es : List Value}
    (h : ∀ e ∈ es, f' e = f e) : Builtin.anyTruthy f' es = Builtin.anyTruthy f es := by
  induction es with
  | nil => rfl
  | cons e rest ih =>
    rw [List.forall_mem_cons] at h
    rw [Builtin.anyTruthy, Builtin.anyTruthy, h.1, ih h.2]

theorem objectMatches_congr {criteria : Entries} {v : Value}
    (hexpression : ∀ pair ∈ criteria,
      evaluator'.isExpression pair.2 = evaluator.isExpression pair.2)
    (hevaluate : ∀ pair ∈ criteria,
      evaluator'.evaluate (context'.withSubject (Engine.valueAt v pair.1)) pair.2 =
        evaluator.evaluate (context.withSubject (Engine.valueAt v pair.1)) pair.2) :
    objectMatches criteria v context' evaluator' = objectMatches criteria v context evaluator := by
  induction criteria with
  | nil => rfl
  | cons pair rest ih =>
    obtain ⟨path, expected⟩ := pair
    rw [List.forall_mem_cons] at hexpression hevaluate
    have hmeets : meets evaluator' context' ((v.resolve? path).getD .null) expected =
        meets evaluator context ((v.resolve? path).getD .null) expected := by
      have hhead := hevaluate.1
      rw [Engine.valueAt] at hhead
      rw [meets, meets, hexpression.1, hhead]
    rw [objectMatches, objectMatches, hmeets, ih hexpression.2 hevaluate.2]

theorem eq_object_of_bind {a : Option Value} {criteria : Entries}
    (h : a.bind Value.asObject? = some criteria) : a = some (.object criteria) := by
  obtain ⟨v, rfl, hv⟩ := Option.bind_eq_some_iff.mp h
  cases v with
  | object entries => cases hv; rfl
  | _ => cases hv

/-- What a connective evaluates are the items of its argument. -/
theorem Evaluator.Agrees.expressions (h : evaluator.Agrees evaluator' context context' arguments) :
    ∀ e ∈ Builtin.expressions arguments,
      evaluator'.evaluate context'.descend e = evaluator.evaluate context.descend e := by
  intro e he
  rw [Builtin.expressions] at he
  cases hfirst : argument? arguments 0 with
  | none => simp [hfirst] at he
  | some v =>
    rw [hfirst] at he
    cases v with
    | array items => exact h.item items hfirst e he
    | _ => cases he

theorem value_congr (evaluator evaluator' : Evaluator) (h : context'.subject = context.subject) :
    Builtin.value arguments context' evaluator' = Builtin.value arguments context evaluator := by
  rw [Builtin.value, Builtin.value, h]

theorem conjunction_congr (h : evaluator.Agrees evaluator' context context' arguments) :
    Builtin.conjunction arguments context' evaluator' =
      Builtin.conjunction arguments context evaluator := by
  rw [Builtin.conjunction, Builtin.conjunction, allTruthy_congr h.expressions]

theorem disjunction_congr (h : evaluator.Agrees evaluator' context context' arguments) :
    Builtin.disjunction arguments context' evaluator' =
      Builtin.disjunction arguments context evaluator := by
  rw [Builtin.disjunction, Builtin.disjunction, anyTruthy_congr h.expressions]

theorem matching_congr (h : evaluator.Agrees evaluator' context context' arguments) :
    Builtin.matching arguments context' evaluator' =
      Builtin.matching arguments context evaluator := by
  rw [Builtin.matching, Builtin.matching]
  split
  · rename_i criteria hcriteria
    have hfirst := eq_object_of_bind hcriteria
    have hexpectation := fun pair hpair ↦ h.expectation criteria hfirst pair hpair _ rfl
    rw [objectMatches_congr (h.isExpression criteria hfirst) hexpectation]
  · rfl

theorem url_congr (h : evaluator.Agrees evaluator' context context' arguments) :
    UrlOperation.url arguments context' evaluator' =
      UrlOperation.url arguments context evaluator := by
  rw [UrlOperation.url, UrlOperation.url, h.defaultBase]

theorem urlMatching_congr (h : evaluator.Agrees evaluator' context context' arguments) :
    UrlOperation.matching arguments context' evaluator' =
      UrlOperation.matching arguments context evaluator := by
  rw [UrlOperation.matching, UrlOperation.matching]
  split
  · rename_i criteria hcriteria
    have hrecord := h.record criteria (eq_object_of_bind hcriteria)
    simp only [matchingCall] at hrecord
    simp only [urlMatches, hrecord]
  · rfl

/-- **Evaluators that agree where it matters give one answer.** -/
theorem handler_congr {op : Operation} (hop : op ∈ Engine.stockOperations)
    (h : evaluator.Agrees evaluator' context context' arguments)
    (hsubject : op.name = "$value" → context'.subject = context.subject) :
    op.handler arguments context' evaluator' = op.handler arguments context evaluator := by
  simp only [Engine.stockOperations, Builtin.operations, UrlOperation.operations, List.cons_append,
    List.nil_append, List.mem_cons, List.not_mem_nil, or_false] at hop
  rcases hop with rfl | rfl | rfl | rfl | rfl | rfl | rfl | rfl | rfl | rfl | rfl | rfl | rfl |
    rfl | rfl | rfl | rfl
  · exact value_congr evaluator evaluator' (hsubject rfl)
  · rfl
  · rfl
  · rfl
  · rfl
  · rfl
  · rfl
  · exact conjunction_congr h
  · exact disjunction_congr h
  · rfl
  · rfl
  · rfl
  · exact matching_congr h
  · exact url_congr h
  · rfl
  · exact urlMatching_congr h
  · rfl

end Handlers

/-! ## Arguments -/

theorem mem_of_argument? {arguments : Arguments} {i : Nat} {v : Value}
    (h : argument? arguments i = some v) : some v ∈ arguments := by
  rw [argument?, Option.join_eq_some_iff] at h
  exact List.mem_of_getElem? h

theorem Operation.mem_of_mem_pad {op : Operation} {arguments : Arguments} {v : Value}
    (h : some v ∈ op.pad arguments) : some v ∈ arguments := by
  rw [pad, List.mem_append, List.mem_replicate] at h
  simpa using h

theorem Operation.mem_of_mem_prepare {op : Operation} {arguments : Arguments} {context : Context}
    {v : Value} (h : some v ∈ op.prepare arguments context) :
    some v ∈ arguments ∨ v = context.subject := by
  rw [prepare, fillDefault] at h
  split at h
  · exact .inl (mem_of_mem_pad h)
  · obtain ⟨i, hi, hget⟩ := List.mem_iff_getElem.mp h
    rw [List.length_modify] at hi
    rw [List.getElem_modify] at hget
    split at hget
    · cases ha : (op.pad arguments)[i] with
      | none =>
        rw [ha] at hget
        exact .inr (Option.some.inj hget).symm
      | some w =>
        rw [ha] at hget
        cases hget
        exact .inl (mem_of_mem_pad (List.mem_of_getElem ha))
    · exact .inl (mem_of_mem_pad (List.mem_of_getElem hget))

/-! ## Calls -/

namespace Engine

section Calls

variable {engine engine' : Engine} {context context' : Context} {op : Operation}
  {written : List Value} {arguments : Arguments}

theorem callArguments_congr
    (h : ∀ a ∈ written, engine'.evaluate context'.descend a = engine.evaluate context.descend a) :
    engine'.callArguments op context' written = engine.callArguments op context written := by
  rw [callArguments, callArguments]
  split
  · induction written with
    | nil => rfl
    | cons a rest ih =>
      rw [List.forall_mem_cons] at h
      rw [List.mapM_cons, List.mapM_cons, h.1, ih h.2]
  · rfl

theorem length_callArguments (h : engine.callArguments op context written = .ok arguments) :
    arguments.length = written.length :=
  Operation.length_of_argumentsBy h

/-- No argument of a call is absent; each is written, or the value of one that is. -/
theorem forall_mem_callArguments {p : Value → Prop} (hwritten : ∀ a ∈ written, p a)
    (hvalue : ∀ a ∈ written, ∀ v, engine.evaluate context.descend a = .ok v → p v)
    (h : engine.callArguments op context written = .ok arguments) :
    ∀ a ∈ arguments, ∃ v, a = some v ∧ p v := by
  rw [callArguments] at h
  split at h
  · induction written generalizing arguments with
    | nil =>
      cases h
      exact List.forall_mem_nil _
    | cons a rest ih =>
      rw [List.forall_mem_cons] at hwritten hvalue
      rw [List.mapM_cons] at h
      obtain ⟨v, hv, h⟩ := bind_eq_ok_iff.mp h
      obtain ⟨w, hw, hv⟩ := bind_eq_ok_iff.mp hv
      obtain ⟨vs, hvs, h⟩ := bind_eq_ok_iff.mp h
      cases hv
      cases h
      exact List.forall_mem_cons.mpr ⟨⟨w, rfl, hvalue.1 w hw⟩, ih hwritten.2 hvalue.2 hvs⟩
  · cases h
    intro a ha
    obtain ⟨w, hw, rfl⟩ := List.mem_map.mp ha
    exact ⟨w, rfl, hwritten w hw⟩

/-- **Two evaluations of a call agree when the evaluations for it do.** -/
theorem evaluate_congr {expression : Value} (hop : op ∈ stockOperations)
    (hcall : engine.call? expression = some (op, written))
    (hcall' : engine'.call? expression = some (op, written))
    (hdepth : context.depth < engine.config.maxDepth)
    (hdepth' : context'.depth < engine'.config.maxDepth)
    (hwritten : ∀ a ∈ written,
      engine'.evaluate context'.descend a = engine.evaluate context.descend a)
    (hprepared : ∀ arguments, engine.callArguments op context written = .ok arguments →
      op.prepare arguments context' = op.prepare arguments context)
    (hagrees : ∀ arguments, engine.callArguments op context written = .ok arguments →
      (engine.evaluatorBelow context).Agrees (engine'.evaluatorBelow context') context context'
        (op.prepare arguments context))
    (hsubject : op.name = "$value" → context'.subject = context.subject) :
    engine'.evaluate context' expression = engine.evaluate context expression := by
  rw [evaluate_of_call hcall hdepth, evaluate_of_call hcall' hdepth', callArguments_congr hwritten]
  cases harguments : engine.callArguments op context written with
  | error e => rfl
  | ok arguments =>
    rw [ok_bind, ok_bind, Operation.invoke, Operation.invoke, hprepared arguments harguments]
    exact bind_congr fun _ ↦ handler_congr hop (hagrees arguments harguments) hsubject

end Calls

end Engine

end UrlCalculus
