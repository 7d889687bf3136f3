import UrlCalculus.Proofs.Expr.Depth
import UrlCalculus.Proofs.Expr.Equation

/-!
# Evaluation step by step

An evaluator is a function, and what a handler does with it cannot be seen from the handler's
result alone. A `Dialogue` shows it: the contexts that are created, the expressions that are asked
for, and how the answers decide what comes next. `Engine.evaluation` tells what evaluating an
expression comes to in this way, with no regard to where it ends.

## Why the dialogues can be trusted

Run with any function in the place of the evaluator, the dialogue of a call gives what evaluating
the arguments and invoking the operation give with that function. So a dialogue neither hides a
question nor has one that the operation does not depend on in the same way, and operations whose
dialogue has no questions do not look at their evaluator at all.

No result depends on the contexts that are created. They are tied to the questions instead: an
expression is only asked about in a context that was created before, in the same dialogue. This is
a part of `Dialogue.Within`.
-/

namespace UrlCalculus

/-! ## Dialogues -/

/-- A computation that asks for the values of expressions. A question that is answered by an error
ends it with that error. -/
inductive Dialogue (α : Type) where
  | done (result : Except Error α)
  | create (context : Context) (next : Dialogue α)
  | ask (context : Context) (expression : Value) (next : Value → Dialogue α)

namespace Dialogue

variable {α β : Type}

def bind : Dialogue α → (α → Dialogue β) → Dialogue β
  | .done (.ok a), f => f a
  | .done (.error e), _ => .done (.error e)
  | .create c next, f => .create c (next.bind f)
  | .ask c e next, f => .ask c e fun v ↦ (next v).bind f

instance : Monad Dialogue where
  pure a := .done (.ok a)
  bind := bind

/-- The value of an expression. -/
def value (context : Context) (expression : Value) : Dialogue Value :=
  .ask context expression pure

/-- What a dialogue ends with when questions are answered by a function. -/
def run (evaluate : Context → Value → Except Error Value) : Dialogue α → Except Error α
  | .done result => result
  | .create _ next => next.run evaluate
  | .ask c e next => evaluate c e >>= fun v ↦ (next v).run evaluate

/-- All contexts that are created have a property, and each context that is asked about is one of
those, whatever the answers are. Some contexts were created before. -/
inductive Within (p : Context → Prop) : List Context → Dialogue α → Prop where
  | done {created : List Context} (result : Except Error α) : Within p created (.done result)
  | create {created : List Context} {c : Context} {next : Dialogue α} :
      p c → Within p (c :: created) next → Within p created (.create c next)
  | ask {created : List Context} {c : Context} {next : Value → Dialogue α} (e : Value) :
      c ∈ created → (∀ v, Within p created (next v)) → Within p created (.ask c e next)

section Laws

variable {evaluate evaluate' : Context → Value → Except Error Value} {p : Context → Prop}
  {created created' : List Context}

@[simp]
theorem run_done (result : Except Error α) : (done result).run evaluate = result := rfl

@[simp]
theorem run_create (c : Context) (next : Dialogue α) :
    (create c next).run evaluate = next.run evaluate := rfl

@[simp]
theorem run_bind (d : Dialogue α) (f : α → Dialogue β) :
    (d >>= f).run evaluate = d.run evaluate >>= fun a ↦ (f a).run evaluate := by
  change (d.bind f).run evaluate = _
  induction d with
  | done result => cases result <;> rfl
  | create c next ih => exact ih
  | ask c e next ih =>
    rw [bind, run, run]
    cases evaluate c e with
    | error e => rfl
    | ok v => exact ih v

@[simp]
theorem run_value (c : Context) (e : Value) : (value c e).run evaluate = evaluate c e := by
  rw [value, run]
  cases evaluate c e <;> rfl

/-- Only the answers to questions that are asked matter. -/
theorem Within.run_congr {d : Dialogue α} (hd : d.Within p created) (hcreated : ∀ c ∈ created, p c)
    (h : ∀ c, p c → evaluate c = evaluate' c) : d.run evaluate = d.run evaluate' := by
  induction hd with
  | done result => rfl
  | create hc _ ih => exact ih (List.forall_mem_cons.mpr ⟨hc, hcreated⟩)
  | ask e hc _ ih =>
    rw [run, run, h _ (hcreated _ hc)]
    apply bind_congr
    intro v
    exact ih v hcreated

/-- More contexts may have been created before. -/
theorem Within.mono {d : Dialogue α} (hd : d.Within p created) (h : created ⊆ created') :
    d.Within p created' := by
  induction hd generalizing created' with
  | done result => exact .done result
  | create hc _ ih => exact .create hc (ih (List.cons_subset_cons _ h))
  | ask e hc _ ih => exact .ask e (h hc) fun v ↦ ih v h

theorem Within.bind {d : Dialogue α} {f : α → Dialogue β} (hd : d.Within p created)
    (hf : ∀ a, (f a).Within p created) : (d >>= f).Within p created := by
  change (d.bind f).Within p created
  induction hd with
  | done result =>
    rcases result with e | a
    · exact .done _
    · exact hf a
  | create hc _ ih => exact .create hc (ih fun a ↦ (hf a).mono (List.subset_cons_self _ _))
  | ask e hc _ ih => exact .ask e hc fun v ↦ ih v hf

theorem within_pure (a : α) : (pure a : Dialogue α).Within p created := .done _

theorem within_value {c : Context} (hc : c ∈ created) (e : Value) :
    (value c e).Within p created :=
  .ask e hc within_pure

end Laws

/-! ## What operations do -/

/-- Evaluate expressions in order until a result is not truthy. -/
def allTruthy (context : Context) : List Value → Dialogue Bool
  | [] => return true
  | e :: rest => do
    if (← value context e).truthy then allTruthy context rest else return false

/-- Evaluate expressions in order until a result is truthy. -/
def anyTruthy (context : Context) : List Value → Dialogue Bool
  | [] => return false
  | e :: rest => do
    if (← value context e).truthy then return true else anyTruthy context rest

def meets (isExpression : Value → Bool) (context : Context) (v expected : Value) : Dialogue Bool :=
  match expected.quoted? with
  | some quoted => return v.same quoted
  | none =>
    if isExpression expected then
      .create (context.withSubject v) do
        return (← value (context.withSubject v) expected).truthy
    else
      return v.same expected

def objectMatches (isExpression : Value → Bool) (context : Context) (v : Value) :
    Entries → Dialogue Bool
  | [] => return true
  | (path, expected) :: rest => do
    if ← meets isExpression context ((v.resolve? path).getD .null) expected then
      objectMatches isExpression context v rest
    else
      return false

def urlMatches (context : Context) (criteria : Entries) (url : String) : Dialogue Bool := do
  let record ← .done ((Record.parse url).mapError .url)
  let inner := context.withSubject record.toValue
  .create inner do
    return (← value inner (.array [.string objectMatchesName, .object criteria])).truthy

/-! ### The handlers that evaluate -/

def conjunction (args : Arguments) (context : Context) : Dialogue Value :=
  .create context.descend do
    return .bool (← allTruthy context.descend (Builtin.expressions args))

def disjunction (args : Arguments) (context : Context) : Dialogue Value :=
  .create context.descend do
    return .bool (← anyTruthy context.descend (Builtin.expressions args))

def matching (isExpression : Value → Bool) (args : Arguments) (context : Context) :
    Dialogue Value :=
  match (argument? args 0).bind Value.asObject? with
  | some criteria => do
    return .bool (← objectMatches isExpression context (argumentOrNull args 1) criteria)
  | none => .done (.error (.invalidExpression "$objectMatches criteria must be an object"))

def urlMatching (args : Arguments) (context : Context) : Dialogue Value :=
  match (argument? args 0).bind Value.asObject? with
  | some criteria => do
    return .bool (← urlMatches context criteria ((stringArgument? args 1).getD ""))
  | none => .done (.error (.invalidExpression "$urlMatches criteria must be an object"))

section Handlers

variable {evaluate : Context → Value → Except Error Value} {context : Context}

theorem run_allTruthy (es : List Value) :
    (allTruthy context es).run evaluate = Builtin.allTruthy (evaluate context) es := by
  induction es with
  | nil => rfl
  | cons e rest ih =>
    rw [allTruthy, Builtin.allTruthy, run_bind, run_value]
    refine bind_congr fun v ↦ ?_
    split
    · exact ih
    · rfl

theorem run_anyTruthy (es : List Value) :
    (anyTruthy context es).run evaluate = Builtin.anyTruthy (evaluate context) es := by
  induction es with
  | nil => rfl
  | cons e rest ih =>
    rw [anyTruthy, Builtin.anyTruthy, run_bind, run_value]
    refine bind_congr fun v ↦ ?_
    split
    · rfl
    · exact ih

variable (evaluator : Evaluator)

theorem run_meets (v expected : Value) :
    (meets evaluator.isExpression context v expected).run evaluator.evaluate =
      UrlCalculus.meets evaluator context v expected := by
  rw [meets, UrlCalculus.meets]
  cases expected.quoted? with
  | some quoted => rfl
  | none =>
    cases evaluator.isExpression expected with
    | false => rfl
    | true =>
      simp only [if_true, run_create, run_bind, run_value]
      rfl

theorem run_objectMatches (criteria : Entries) (v : Value) :
    (objectMatches evaluator.isExpression context v criteria).run evaluator.evaluate =
      UrlCalculus.objectMatches criteria v context evaluator := by
  induction criteria with
  | nil => rfl
  | cons pair rest ih =>
    rw [objectMatches, UrlCalculus.objectMatches, run_bind, run_meets]
    refine bind_congr fun met ↦ ?_
    split
    · exact ih
    · rfl

theorem run_urlMatches (criteria : Entries) (url : String) :
    (urlMatches context criteria url).run evaluator.evaluate =
      UrlCalculus.urlMatches criteria url evaluator context := by
  rw [urlMatches, UrlCalculus.urlMatches, run_bind, run_done]
  cases Record.parse url with
  | error e => rfl
  | ok record =>
    simp only [mapError_ok, ok_bind]
    rw [run_create, run_bind, run_value]
    rfl

theorem run_conjunction (args : Arguments) :
    (conjunction args context).run evaluator.evaluate =
      Builtin.conjunction args context evaluator := by
  rw [conjunction, run_create, run_bind, run_allTruthy]
  rfl

theorem run_disjunction (args : Arguments) :
    (disjunction args context).run evaluator.evaluate =
      Builtin.disjunction args context evaluator := by
  rw [disjunction, run_create, run_bind, run_anyTruthy]
  rfl

theorem run_matching (args : Arguments) :
    (matching evaluator.isExpression args context).run evaluator.evaluate =
      Builtin.matching args context evaluator := by
  rw [matching, Builtin.matching]
  cases (argument? args 0).bind Value.asObject? with
  | none => rfl
  | some criteria =>
    simp only [run_bind, run_objectMatches]
    rfl

theorem run_urlMatching (args : Arguments) :
    (urlMatching args context).run evaluator.evaluate =
      UrlOperation.matching args context evaluator := by
  rw [urlMatching, UrlOperation.matching]
  cases (argument? args 0).bind Value.asObject? with
  | none => rfl
  | some criteria =>
    simp only [run_bind, run_urlMatches]
    rfl

end Handlers

/-! ### In which contexts -/

section Contexts

variable {p : Context → Prop} {created : List Context} {context : Context}

theorem within_allTruthy (hc : context ∈ created) (es : List Value) :
    (allTruthy context es).Within p created := by
  induction es with
  | nil => exact within_pure _
  | cons e rest ih =>
    apply (within_value hc e).bind
    intro v
    split
    · exact ih
    · exact .done _

theorem within_anyTruthy (hc : context ∈ created) (es : List Value) :
    (anyTruthy context es).Within p created := by
  induction es with
  | nil => exact within_pure _
  | cons e rest ih =>
    apply (within_value hc e).bind
    intro v
    split
    · exact .done _
    · exact ih

/-- A question in a context that was created for it. -/
theorem within_create_value {c : Context} (hc : p c) (e : Value) (f : Value → α) :
    (create c do return f (← value c e)).Within p created := by
  refine .create hc ((within_value List.mem_cons_self e).bind ?_)
  intro v
  exact within_pure _

variable (hp : ∀ subject, p (context.withSubject subject))

include hp

theorem within_meets (isExpression : Value → Bool) (v expected : Value) :
    (meets isExpression context v expected).Within p created := by
  rw [meets]
  split
  · exact .done _
  · split
    · exact within_create_value (hp v) expected Value.truthy
    · exact .done _

theorem within_objectMatches (isExpression : Value → Bool) (criteria : Entries) (v : Value) :
    (objectMatches isExpression context v criteria).Within p created := by
  induction criteria with
  | nil => exact within_pure _
  | cons pair rest ih =>
    apply (within_meets hp isExpression _ _).bind
    intro met
    split
    · exact ih
    · exact .done _

theorem within_urlMatches (criteria : Entries) (url : String) :
    (urlMatches context criteria url).Within p created := by
  rw [urlMatches]
  refine .bind (.done _) ?_
  intro record
  exact within_create_value (hp _) _ Value.truthy

theorem within_conjunction (args : Arguments) : (conjunction args context).Within p created := by
  refine .create (hp context.subject) ((within_allTruthy List.mem_cons_self _).bind ?_)
  intro b
  exact within_pure _

theorem within_disjunction (args : Arguments) : (disjunction args context).Within p created := by
  refine .create (hp context.subject) ((within_anyTruthy List.mem_cons_self _).bind ?_)
  intro b
  exact within_pure _

theorem within_matching (isExpression : Value → Bool) (args : Arguments) :
    (matching isExpression args context).Within p created := by
  rw [matching]
  split
  · exact (within_objectMatches hp isExpression _ _).bind fun _ ↦ within_pure _
  · exact .done _

theorem within_urlMatching (args : Arguments) : (urlMatching args context).Within p created := by
  rw [urlMatching]
  split
  · exact (within_urlMatches hp _ _).bind fun _ ↦ within_pure _
  · exact .done _

end Contexts

/-! ### Arguments -/

/-- Evaluate all arguments. -/
def arguments (context : Context) : List Value → Dialogue Arguments
  | [] => return []
  | a :: rest => do
    let v ← value context a
    let vs ← arguments context rest
    return some v :: vs

theorem run_arguments {evaluate : Context → Value → Except Error Value} {context : Context}
    (written : List Value) :
    (arguments context written).run evaluate =
      written.mapM fun a ↦ do return some (← evaluate context a) := by
  induction written with
  | nil => rfl
  | cons a rest ih =>
    rw [arguments, run_bind, run_value, List.mapM_cons, bind_assoc]
    refine bind_congr fun v ↦ ?_
    rw [run_bind, ih]
    rfl

theorem within_arguments {p : Context → Prop} {created : List Context} {context : Context}
    (hc : context ∈ created) (written : List Value) :
    (arguments context written).Within p created := by
  induction written with
  | nil => exact within_pure _
  | cons a rest ih => exact (within_value hc a).bind fun _ ↦ ih.bind fun _ ↦ within_pure _

end Dialogue

/-! ## What evaluating an expression comes to -/

namespace Engine

/-- What the handler of an operation does. All but four operations answer by themselves, so it does
not matter what they are given to evaluate with. -/
def handling (engine : Engine) (op : Operation) (arguments : Arguments) (context : Context) :
    Dialogue Value :=
  match op.name with
  | "$and" => .conjunction arguments context
  | "$or" => .disjunction arguments context
  | "$objectMatches" => .matching engine.isExpression arguments context
  | "$urlMatches" => .urlMatching arguments context
  | _ => .done (op.handler arguments context (engine.evaluatorBy fun _ e ↦ .ok e))

/-- What invoking an operation comes to. -/
def invocation (engine : Engine) (op : Operation) (arguments : Arguments) (context : Context) :
    Dialogue Value := do
  let prepared := op.prepare arguments context
  Dialogue.done (Operation.checkArguments op.name op.parameters prepared)
  engine.handling op prepared context

/-- What evaluating an expression comes to. -/
def evaluation (engine : Engine) (context : Context) (expression : Value) : Dialogue Value :=
  match engine.call? expression with
  | none => return expression
  | some (op, written) =>
    if context.depth < engine.config.maxDepth then do
      let arguments ←
        if op.evaluatesArguments then
          .create context.descend (Dialogue.arguments context.descend written)
        else
          pure (written.map some)
      engine.invocation op arguments context
    else
      .done (.error (.depthExceeded engine.config.maxDepth))

section Faithful

variable {engine : Engine} {evaluate : Context → Value → Except Error Value} {context : Context}

/-- **The dialogue of an operation of this library is what its handler does**, whatever function it
evaluates with. -/
theorem run_handling {op : Operation} (h : op ∈ stockOperations) (arguments : Arguments) :
    (engine.handling op arguments context).run evaluate =
      op.handler arguments context (engine.evaluatorBy evaluate) := by
  simp only [stockOperations, Builtin.operations, UrlOperation.operations, List.cons_append,
    List.nil_append, List.mem_cons, List.not_mem_nil, or_false] at h
  rcases h with rfl | rfl | rfl | rfl | rfl | rfl | rfl | rfl | rfl | rfl | rfl | rfl | rfl | rfl |
    rfl | rfl | rfl
  · rfl
  · rfl
  · rfl
  · rfl
  · rfl
  · rfl
  · rfl
  · exact Dialogue.run_conjunction (engine.evaluatorBy evaluate) arguments
  · exact Dialogue.run_disjunction (engine.evaluatorBy evaluate) arguments
  · rfl
  · rfl
  · rfl
  · exact Dialogue.run_matching (engine.evaluatorBy evaluate) arguments
  · rfl
  · rfl
  · exact Dialogue.run_urlMatching (engine.evaluatorBy evaluate) arguments
  · rfl

theorem run_invocation {op : Operation} (h : op ∈ stockOperations) (arguments : Arguments) :
    (engine.invocation op arguments context).run evaluate =
      op.invoke arguments context (engine.evaluatorBy evaluate) := by
  rw [invocation, Operation.invoke, Dialogue.run_bind, Dialogue.run_done]
  exact bind_congr fun _ ↦ run_handling h _

/-- What evaluating an expression comes to, with the values of inner expressions given. -/
theorem IsStock.run_evaluation (h : engine.IsStock) (expression : Value) :
    (engine.evaluation context expression).run evaluate =
      engine.evaluateBy evaluate context expression := by
  rw [evaluation, evaluateBy]
  cases hcall : engine.call? expression with
  | none => rfl
  | some found =>
    obtain ⟨op, written⟩ := found
    obtain ⟨name, hop, -⟩ := operation?_of_call? hcall
    simp only
    split
    · split
      · rw [Dialogue.run_bind, Dialogue.run_create, Dialogue.run_arguments]
        exact bind_congr fun arguments ↦ run_invocation (h.mem_of_operation? hop) arguments
      · exact run_invocation (h.mem_of_operation? hop) _
    · rfl

end Faithful

/-! ### In which contexts -/

section Contexts

variable {engine : Engine} {p : Context → Prop} {created : List Context} {context : Context}

theorem within_handling (hp : ∀ subject, p (context.withSubject subject)) (op : Operation)
    (arguments : Arguments) : (engine.handling op arguments context).Within p created := by
  rw [handling]
  split
  · exact Dialogue.within_conjunction hp arguments
  · exact Dialogue.within_disjunction hp arguments
  · exact Dialogue.within_matching hp _ arguments
  · exact Dialogue.within_urlMatching hp arguments
  · exact .done _

/-- One level below a context, and not beyond the limit. -/
def Below (engine : Engine) (context c : Context) : Prop :=
  c.depth = context.depth + 1 ∧ c.depth ≤ engine.config.maxDepth

/-- **Everything is one level deeper**, in contexts that were created for it, and a call at the limit
creates no context at all. -/
theorem within_evaluation (engine : Engine) (context : Context) (expression : Value) :
    (engine.evaluation context expression).Within (engine.Below context) [] := by
  rw [evaluation]
  split
  · exact Dialogue.within_pure _
  · split
    · rename_i op written _ hdepth
      have hbelow (subject : Value) : engine.Below context (context.withSubject subject) :=
        ⟨rfl, hdepth⟩
      have hinvocation (arguments : Arguments) :
          (engine.invocation op arguments context).Within (engine.Below context) [] :=
        Dialogue.Within.bind (.done _) fun _ ↦ within_handling hbelow op _
      split
      · refine .bind (.create (hbelow context.subject) ?_) hinvocation
        exact Dialogue.within_arguments List.mem_cons_self written
      · exact hinvocation _
    · exact .done _

end Contexts

end Engine

end UrlCalculus
