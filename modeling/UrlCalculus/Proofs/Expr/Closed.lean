import UrlCalculus.Proofs.Expr.Provenance
import UrlCalculus.Proofs.Expr.Questions

/-!
# Closed expressions

The subject enters an evaluation in two ways: a call asks for it, or a call leaves the argument out
that the subject stands in for. An expression in which neither happens is closed, and its value does
not depend on the subject. Calls inside of objects do not count, since they are evaluated about what
stands at the path of a pair of criteria, and not about the subject.

Being closed goes over to values, because evaluation makes no arrays: what an expression with no
objects around it evaluates to is nested in the expression or has no calls in it. So a connective
whose operands are computed evaluates closed expressions again.
-/

namespace UrlCalculus

/-! ## Arguments that are all there -/

namespace Operation

variable {op : Operation} {arguments : Arguments}

/-- The subject stands in for no argument where the one in the default place is given. -/
theorem prepare_eq_pad (context : Context) (hgiven : ∀ a ∈ arguments, ∃ v, a = some v)
    (hplace : ∀ place, op.defaultPlace = some place → place < arguments.length) :
    op.prepare arguments context = op.pad arguments := by
  rw [prepare, fillDefault]
  split
  · rfl
  · rename_i place hdefault
    have hlt := hplace place hdefault
    obtain ⟨v, hv⟩ := hgiven _ (List.getElem_mem hlt)
    have hget : (op.pad arguments)[place]? = some (some v) := by
      rw [pad, List.getElem?_append_left hlt, List.getElem?_eq_getElem hlt, hv]
    ext1 i
    rw [List.getElem?_modify]
    by_cases hi : place = i
    · subst hi
      simp [hget]
    · simp [hi]

end Operation

namespace Engine

/-! ## Closed values -/

/-- No call that is nested in an expression asks for the subject or leaves out the argument that the
subject stands in for. -/
def Closed (engine : Engine) (expression : Value) : Prop :=
  ∀ name written op, Value.Nested (.array (.string name :: written)) expression →
    engine.operation? name = some op →
      name ≠ "$value" ∧ ∀ place, op.defaultPlace = some place → place < written.length

section Closed

variable {engine : Engine} {context : Context} {expression v : Value}

theorem Closed.of_item {items : List Value} {item : Value} (h : engine.Closed (.array items))
    (hitem : item ∈ items) : engine.Closed item := by
  intro name written op hnested
  exact h name written op (.item hitem hnested)

theorem closed_of_arrayless (h : v.Arrayless) : engine.Closed v := by
  intro name written op hnested
  exact absurd hnested.part (h _)

/-- What stands in an object does not count. -/
theorem closed_object (entries : Entries) : engine.Closed (.object entries) := by
  intro name written op hnested
  cases hnested

theorem closed_call {op : Operation} {name : String} {written : List Value}
    (hop : engine.operation? name = some op) (hname : name ≠ "$value")
    (hplace : ∀ place, op.defaultPlace = some place → place < written.length)
    (hwritten : ∀ a ∈ written, engine.Closed a) :
    engine.Closed (.array (.string name :: written)) := by
  intro name' written' op' hnested hop'
  cases hnested with
  | self =>
    obtain rfl : op = op' := Option.some.inj (hop.symm.trans hop')
    exact ⟨hname, hplace⟩
  | item hitem hnested =>
    rcases List.mem_cons.mp hitem with rfl | hitem
    · cases hnested
    · exact hwritten _ hitem name' written' op' hnested hop'

/-- The value of a closed expression is closed. -/
theorem IsStock.closed_of_evaluate (h : engine.IsStock) (hclosed : engine.Closed expression)
    (hv : engine.evaluate context expression = .ok v) : engine.Closed v := by
  cases hcall : engine.call? expression with
  | none =>
    rw [evaluate_of_not_call hcall] at hv
    cases hv
    exact hclosed
  | some found =>
    obtain ⟨op, written⟩ := found
    obtain ⟨hop, rfl⟩ := eq_of_call? hcall
    cases h.origin_of_evaluate hv with
    | itself => exact hclosed
    | arrayless hv => exact closed_of_arrayless hv
    | quoted hexpression =>
      refine hclosed.of_item ?_
      rw [Value.array.inj hexpression]
      exact List.mem_cons_of_mem _ List.mem_cons_self
    | fetched hexpression _ =>
      have hhead := (List.cons.inj (Value.array.inj hexpression)).1
      exact absurd (Value.string.inj hhead) (hclosed _ _ _ (.self _) hop).1

end Closed

/-! ## Evaluation about two subjects -/

section Subjects

variable {engine : Engine} {op : Operation} {arguments : Arguments} {depth : Nat}
  {subject subject' : Value}

/-- At one depth, handlers are given the same answers about two subjects, but for the expressions
that they evaluate about the subject itself. -/
theorem agrees_subjects
    (hitem : ∀ e, engine.Closed e →
      engine.evaluate ⟨subject', depth + 1⟩ e = engine.evaluate ⟨subject, depth + 1⟩ e)
    (harguments : ∀ i v, argument? arguments i = some v → engine.Closed v) :
    (engine.evaluatorBelow ⟨subject, depth⟩).Agrees (engine.evaluatorBelow ⟨subject', depth⟩)
      ⟨subject, depth⟩ ⟨subject', depth⟩ arguments where
  defaultBase := rfl
  item items hitems e he := by
    have hbelow (s : Value) : (engine.evaluatorBelow ⟨s, depth⟩).evaluate
        (Context.descend ⟨s, depth⟩) e = engine.evaluate ⟨s, depth + 1⟩ e :=
      engine.evaluate_evaluatorBelow ⟨s, depth⟩ s e
    rw [hbelow, hbelow]
    exact hitem e ((harguments 0 _ hitems).of_item he)
  isExpression _ _ _ _ := rfl
  expectation _ _ _ _ _ _ := rfl
  record _ _ _ := rfl

/-- The arguments of a closed call are given and closed, and the subject is not added to them. -/
theorem IsStock.prepare_of_closed (h : engine.IsStock) {written : List Value}
    (hwritten : ∀ a ∈ written, engine.Closed a)
    (hplace : ∀ place, op.defaultPlace = some place → place < written.length)
    (harguments : engine.callArguments op ⟨subject, depth⟩ written = .ok arguments) :
    (∀ context, op.prepare arguments context = op.pad arguments) ∧
      ∀ i v, argument? (op.pad arguments) i = some v → engine.Closed v := by
  have hgiven : ∀ a ∈ arguments, ∃ v, a = some v ∧ engine.Closed v :=
    forall_mem_callArguments hwritten (fun a ha v ↦ h.closed_of_evaluate (hwritten a ha))
      harguments
  constructor
  · intro context
    rw [← length_callArguments harguments] at hplace
    exact Operation.prepare_eq_pad context (fun a ha ↦ (hgiven a ha).imp fun _ hv ↦ hv.1) hplace
  · intro i v hv
    obtain ⟨w, hw, hclosed⟩ := hgiven _ (Operation.mem_of_mem_pad (mem_of_argument? hv))
    rwa [Option.some.inj hw]

end Subjects

/-- **A closed expression does not see the subject.** -/
theorem IsStock.evaluate_eq_of_closed {engine : Engine} (h : engine.IsStock) {expression : Value}
    (hclosed : engine.Closed expression) (depth : Nat) (subject subject' : Value) :
    engine.evaluate ⟨subject', depth⟩ expression = engine.evaluate ⟨subject, depth⟩ expression := by
  -- the induction is on the room below the limit
  induction hn : engine.config.maxDepth - depth using Nat.strongRecOn
    generalizing depth expression with
  | _ n ih =>
    cases hcall : engine.call? expression with
    | none => rw [evaluate_of_not_call hcall, evaluate_of_not_call hcall]
    | some found =>
      obtain ⟨op, written⟩ := found
      by_cases hdepth : depth < engine.config.maxDepth
      · obtain ⟨hop, rfl⟩ := eq_of_call? hcall
        obtain ⟨hvalue, hplace⟩ := hclosed _ _ _ (.self _) hop
        have hwritten : ∀ a ∈ written, engine.Closed a := by
          intro a ha
          exact hclosed.of_item (List.mem_cons_of_mem _ ha)
        have hinner : ∀ e, engine.Closed e →
            engine.evaluate ⟨subject', depth + 1⟩ e = engine.evaluate ⟨subject, depth + 1⟩ e := by
          intro e he
          exact ih (engine.config.maxDepth - (depth + 1)) (by omega) he (depth + 1) rfl
        refine evaluate_congr (h.mem_of_operation? hop) hcall hcall hdepth hdepth ?_ ?_ ?_ ?_
        · intro a ha
          exact hinner a (hwritten a ha)
        · intro arguments harguments
          have hprepare := (h.prepare_of_closed hwritten hplace harguments).1
          rw [hprepare, hprepare]
        · intro arguments harguments
          obtain ⟨hprepare, hpad⟩ := h.prepare_of_closed hwritten hplace harguments
          rw [hprepare]
          exact agrees_subjects hinner hpad
        · intro hname
          exact absurd hname hvalue
      · have hcalled := isExpression_eq_true_iff.mpr ⟨op, written, hcall⟩
        rw [evaluate_of_call_of_le hcalled (Nat.le_of_not_lt hdepth),
          evaluate_of_call_of_le hcalled (Nat.le_of_not_lt hdepth)]

/-- The criteria of a closed expression may ask for the value that they are about. -/
theorem evaluate_eq_of_closed_matching :
    let expression := Value.array [.string objectMatchesName,
      .object [("hostname", .array [.string "$exists"]),
        ("port", .array [.string "$eq", .array [.string "$value"]])],
      .array [.string UrlOperation.parseName, .string "http://a:81/"]]
    (standard {}).IsStock ∧ (standard {}).Closed expression ∧
      (standard {}).evaluate ⟨.string "http://b/", 0⟩ expression =
        (standard {}).evaluate ⟨.null, 0⟩ expression := by
  intro expression
  have hurl : (standard {}).Closed (.array [.string UrlOperation.parseName,
      .string "http://a:81/"]) := by
    refine closed_call (operation?_standard {} _) (by decide)
      (by simp [Operation.lastPlace, Operation.of]) ?_
    simpa using closed_of_arrayless (Value.arrayless_string _)
  have hclosed : (standard {}).Closed expression := by
    refine closed_call (operation?_standard {} _) (by decide)
      (by simp [Operation.lastPlace, Operation.of]) ?_
    simpa using ⟨closed_object _, hurl⟩
  exact ⟨isStock_standard {}, hclosed, (isStock_standard {}).evaluate_eq_of_closed hclosed 0 _ _⟩

end Engine

end UrlCalculus
