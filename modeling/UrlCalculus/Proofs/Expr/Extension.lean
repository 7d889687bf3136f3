import UrlCalculus.Proofs.Expr.Provenance
import UrlCalculus.Proofs.Expr.Questions

/-!
# Registering an operation

An operation that is added to an engine, or that takes the place of another one, changes the value
of those expressions only that mention its name, in themselves or through their subject. Expressions
are partly computed, so it is not enough to look at the calls that are written: the items of an
array that the subject holds are evaluated too, and so are the expectations of criteria about
whatever stands at their path.

What carries the proof is that the name stays out of everything that is evaluated. Values have their
arrays from the expression and the subject, records have none, and the one call that is put together
on the way begins with the name of the operation that matches any value.
-/

namespace UrlCalculus

namespace Engine

section Register

variable {engine : Engine} {op : Operation} {context : Context} {name : String}
  {arguments : Arguments}

theorem call?_register {expression : Value} (h : ¬expression.Mentions op.name) :
    (engine.register op).call? expression = engine.call? expression := by
  unfold call?
  split
  · rename_i head written
    have hhead : op.name ≠ head := by
      rintro rfl
      exact h ⟨written, .self _⟩
    rw [operation?_register, if_neg hhead]
  · rfl

theorem isExpression_register {expression : Value} (h : ¬expression.Mentions op.name) :
    (engine.register op).isExpression expression = engine.isExpression expression := by
  rw [isExpression, isExpression, call?_register h]

/-! ## What does not mention a name -/

theorem not_mentions_matchingCall {criteria : Entries} (hname : name ≠ objectMatchesName)
    (h : ¬(Value.object criteria).Mentions name) : ¬(matchingCall criteria).Mentions name := by
  rw [matchingCall, Value.mentions_array_iff]
  rintro (hhead | ⟨item, hitem, hmentions⟩)
  · cases hhead
    exact hname rfl
  · simp only [List.mem_cons, List.not_mem_nil, or_false] at hitem
    rcases hitem with rfl | rfl
    · exact (Value.arrayless_string _).not_mentions hmentions
    · exact h hmentions

theorem not_mentions_valueAt {value : Value} (h : ¬value.Mentions name) (path : String) :
    ¬(valueAt value path).Mentions name := by
  rw [valueAt]
  cases hpath : value.resolve? path with
  | none => exact Value.arrayless_null.not_mentions
  | some w =>
    intro hw
    exact h (.of_part (Value.part_of_resolve? hpath) hw)

theorem not_mentions_argumentOrNull
    (h : ∀ i v, argument? arguments i = some v → ¬v.Mentions name) (i : Nat) :
    ¬(argumentOrNull arguments i).Mentions name := by
  rw [argumentOrNull]
  cases hargument : argument? arguments i with
  | none => exact Value.arrayless_null.not_mentions
  | some v => exact h i v hargument

theorem not_mentions_of_entry {criteria : Entries} {pair : String × Value}
    (h : ¬(Value.object criteria).Mentions name) (hpair : pair ∈ criteria) :
    ¬pair.2.Mentions name := by
  intro hmentions
  exact h (.of_part (.entry hpair (.self _)) hmentions)

theorem not_mentions_of_item {items : List Value} {item : Value}
    (h : ¬(Value.array items).Mentions name) (hitem : item ∈ items) : ¬item.Mentions name := by
  intro hmentions
  exact h (.of_part (.item hitem (.self _)) hmentions)

/-- The arguments of a call that does not mention a name do not mention it. -/
theorem IsStock.not_mentions_prepare (h : engine.IsStock) {o : Operation} {written : List Value}
    (hwritten : ∀ a ∈ written, ¬a.Mentions name) (hsubject : ¬context.subject.Mentions name)
    (harguments : engine.callArguments o context written = .ok arguments) (i : Nat) (v : Value)
    (hv : argument? (o.prepare arguments context) i = some v) : ¬v.Mentions name := by
  have hvalue : ∀ a ∈ written, ∀ v, engine.evaluate context.descend a = .ok v →
      ¬v.Mentions name := by
    intro a ha v hv
    exact h.not_mentions_of_evaluate hv (hwritten a ha) hsubject
  rcases Operation.mem_of_mem_prepare (mem_of_argument? hv) with hmem | rfl
  · obtain ⟨w, heq, hw⟩ := forall_mem_callArguments hwritten hvalue harguments _ hmem
    rwa [Option.some.inj heq]
  · exact hsubject

/-! ## What is evaluated for a call -/

/-- Where the engines agree one level down, so do the answers that a handler gets. -/
theorem agrees_register (hname : op.name ≠ objectMatchesName)
    (hinner : ∀ subject e, ¬subject.Mentions op.name → ¬e.Mentions op.name →
      (engine.register op).evaluate (context.withSubject subject) e =
        engine.evaluate (context.withSubject subject) e)
    (hsubject : ¬context.subject.Mentions op.name)
    (harguments : ∀ i v, argument? arguments i = some v → ¬v.Mentions op.name) :
    (engine.evaluatorBelow context).Agrees ((engine.register op).evaluatorBelow context) context
      context arguments := by
  have hbelow (subject e : Value) (hsubject : ¬subject.Mentions op.name)
      (he : ¬e.Mentions op.name) :
      ((engine.register op).evaluatorBelow context).evaluate (context.withSubject subject) e =
        (engine.evaluatorBelow context).evaluate (context.withSubject subject) e := by
    rw [evaluate_evaluatorBelow, evaluate_evaluatorBelow]
    exact hinner subject e hsubject he
  refine ⟨rfl, fun items hitems e he ↦ ?_, fun criteria hcriteria pair hpair ↦ ?_,
    fun criteria hcriteria pair hpair v hv ↦ ?_, fun criteria hcriteria record ↦ ?_⟩
  · exact hbelow context.subject e hsubject (not_mentions_of_item (harguments 0 _ hitems) he)
  · exact isExpression_register (not_mentions_of_entry (harguments 0 _ hcriteria) hpair)
  · subst hv
    have hvalue := not_mentions_argumentOrNull harguments 1
    exact hbelow _ _ (not_mentions_valueAt hvalue pair.1)
      (not_mentions_of_entry (harguments 0 _ hcriteria) hpair)
  · exact hbelow _ _ record.arrayless_toValue.not_mentions
      (not_mentions_matchingCall hname (harguments 0 _ hcriteria))

end Register

/-- **An operation matters to those only who mention it.** Registering an operation in a stock
engine leaves every expression its result, value or error, that does not mention the name of the
operation and is about a subject that does not mention it. -/
theorem IsStock.evaluate_register {engine : Engine} (h : engine.IsStock) {op : Operation}
    (hname : op.name ≠ objectMatchesName) {context : Context} {expression : Value}
    (hexpression : ¬expression.Mentions op.name) (hsubject : ¬context.subject.Mentions op.name) :
    (engine.register op).evaluate context expression = engine.evaluate context expression := by
  -- the induction is on the room below the limit, which is the same in both engines
  induction hn : engine.config.maxDepth - context.depth using Nat.strongRecOn
    generalizing context expression with
  | _ n ih =>
    have hcall' : (engine.register op).call? expression = engine.call? expression :=
      call?_register hexpression
    cases hcall : engine.call? expression with
    | none =>
      rw [hcall] at hcall'
      rw [evaluate_of_not_call hcall, evaluate_of_not_call hcall']
    | some found =>
      obtain ⟨o, written⟩ := found
      rw [hcall] at hcall'
      by_cases hdepth : context.depth < engine.config.maxDepth
      · obtain ⟨hop, hwritten⟩ := eq_of_call? hcall
        have hitems : ∀ a ∈ written, ¬a.Mentions op.name := by
          intro a ha
          rw [hwritten] at hexpression
          exact not_mentions_of_item hexpression (List.mem_cons_of_mem _ ha)
        have hinner : ∀ subject e, ¬subject.Mentions op.name → ¬e.Mentions op.name →
            (engine.register op).evaluate (context.withSubject subject) e =
              engine.evaluate (context.withSubject subject) e := by
          intro subject e hsubject he
          refine ih (engine.config.maxDepth - (context.depth + 1)) (by omega) he hsubject rfl
        refine evaluate_congr (h.mem_of_operation? hop) hcall hcall' hdepth hdepth ?_ ?_ ?_ ?_
        · intro a ha
          exact hinner context.subject a hsubject (hitems a ha)
        · intro arguments _
          rfl
        · intro arguments harguments
          exact agrees_register hname hinner hsubject
            (h.not_mentions_prepare hitems hsubject harguments)
        · intro _
          rfl
      · -- both engines refuse the call
        have hcalled := isExpression_eq_true_iff.mpr ⟨o, written, hcall⟩
        have hcalled' := isExpression_eq_true_iff.mpr ⟨o, written, hcall'⟩
        rw [evaluate_of_call_of_le hcalled (Nat.le_of_not_lt hdepth),
          evaluate_of_call_of_le hcalled' (Nat.le_of_not_lt hdepth)]
        rfl

/-- A URL may spell the name of the operation, and criteria may ask for that text. -/
theorem evaluate_register_spelled :
    let op := Operation.of "$eq" [] fun _ _ _ ↦ .error (.invalidExpression "replaced")
    let expression := Value.array [.string UrlOperation.matchesName,
      .object [("searchParams.q", .array [.string "$stringIncludes", .string "$eq"])]]
    let subject := Value.string "http://h/?q=%24eq&$eq=$eq"
    (standard {}).IsStock ∧ op.name ≠ objectMatchesName ∧ ¬expression.Mentions op.name ∧
      ¬subject.Mentions op.name ∧
      ((standard {}).register op).evaluate (.root subject) expression =
        (standard {}).evaluate (.root subject) expression := by
  intro op expression subject
  have hname : op.name ≠ objectMatchesName := by decide
  have hexpression : ¬expression.Mentions op.name := by
    simp [expression, op, Operation.of, UrlOperation.matchesName]
  have hsubject : ¬subject.Mentions op.name := Value.not_mentions_string _ _
  refine ⟨isStock_standard {}, hname, hexpression, hsubject, ?_⟩
  exact (isStock_standard {}).evaluate_register hname hexpression hsubject

end Engine

end UrlCalculus
