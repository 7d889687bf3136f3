import UrlCalculus.Proofs.Expr.Registry

/-!
# Depth

The depth limit decides whether an evaluation is carried out and has no other influence: an
evaluation that has at least as much room below its limit gives the same result, unless the one with
less room ran out of it.

## The relation

`Refines r r'` says that `r'` is the result `r`, unless `r` is the failure at the limit. It goes
through binds, so it goes through every handler that looks at the depth of its context in no other
way than by evaluating in deeper ones. That is what `Handler.DepthBlind` asks for, of two evaluators
that are so related in two contexts with one subject; it holds of every operation of this library,
and then of evaluation itself. The two evaluations may be those of two engines, as long as these
have the same operations and the same default base.
-/

namespace UrlCalculus

/-! ## Results up to the limit -/

/-- The second result is the first one, unless that is the failure of a call at the limit. -/
def Refines {α : Type} (r r' : Except Error α) : Prop :=
  (∃ limit, r = .error (.depthExceeded limit)) ∨ r' = r

namespace Refines

variable {α β : Type}

theorem refl (r : Except Error α) : Refines r r := .inr rfl

theorem eq_of_ne {r r' : Except Error α} (h : Refines r r')
    (hne : ∀ limit, r ≠ .error (.depthExceeded limit)) : r' = r := by
  rcases h with ⟨limit, hlimit⟩ | h
  · exact absurd hlimit (hne limit)
  · exact h

theorem bind {r r' : Except Error α} {f f' : α → Except Error β} (h : Refines r r')
    (hf : ∀ a, Refines (f a) (f' a)) : Refines (r >>= f) (r' >>= f') := by
  rcases h with ⟨limit, rfl⟩ | rfl
  · exact .inl ⟨limit, rfl⟩
  · cases r' with
    | error e => exact .inr rfl
    | ok a => exact hf a

theorem mapM {f f' : α → Except Error β} (hf : ∀ a, Refines (f a) (f' a)) (as : List α) :
    Refines (as.mapM f) (as.mapM f') := by
  induction as with
  | nil => exact refl _
  | cons a rest ih =>
    rw [List.mapM_cons, List.mapM_cons]
    refine (hf a).bind fun b ↦ ?_
    exact ih.bind fun bs ↦ refl _

end Refines

/-! ## Handlers -/

theorem Context.descend_eq_withSubject {context context' : Context}
    (h : context'.subject = context.subject) :
    context'.descend = context'.withSubject context.subject := by
  rw [← h]
  rfl

/-- The second evaluator, in the second context, evaluates all that the first one evaluates in the
first context one level deeper, and they agree on everything else. -/
structure Evaluator.RefinesAt (evaluator evaluator' : Evaluator) (context context' : Context) :
    Prop where
  isExpression : evaluator'.isExpression = evaluator.isExpression
  defaultBase : evaluator'.defaultBase = evaluator.defaultBase
  evaluate : ∀ subject expression,
    Refines (evaluator.evaluate (context.withSubject subject) expression)
      (evaluator'.evaluate (context'.withSubject subject) expression)

/-- The depth of the context has no influence on a handler but through what is evaluated for it. -/
def Handler.DepthBlind (handler : Handler) : Prop :=
  ∀ ⦃evaluator evaluator' : Evaluator⦄ ⦃context context' : Context⦄,
    context'.subject = context.subject → evaluator.RefinesAt evaluator' context context' →
    ∀ arguments, Refines (handler arguments context evaluator)
      (handler arguments context' evaluator')

section Blind

variable {evaluator evaluator' : Evaluator} {context context' : Context}

theorem Evaluator.RefinesAt.descend (h : evaluator.RefinesAt evaluator' context context')
    (hsubject : context'.subject = context.subject) (expression : Value) :
    Refines (evaluator.evaluate context.descend expression)
      (evaluator'.evaluate context'.descend expression) := by
  rw [Context.descend_eq_withSubject hsubject]
  exact h.evaluate context.subject expression

theorem refines_allTruthy {f f' : Value → Except Error Value} (hf : ∀ e, Refines (f e) (f' e))
    (es : List Value) : Refines (Builtin.allTruthy f es) (Builtin.allTruthy f' es) := by
  induction es with
  | nil => exact .refl _
  | cons e rest ih =>
    refine (hf e).bind fun v ↦ ?_
    cases v.truthy with
    | false => exact .refl _
    | true => exact ih

theorem refines_anyTruthy {f f' : Value → Except Error Value} (hf : ∀ e, Refines (f e) (f' e))
    (es : List Value) : Refines (Builtin.anyTruthy f es) (Builtin.anyTruthy f' es) := by
  induction es with
  | nil => exact .refl _
  | cons e rest ih =>
    refine (hf e).bind fun v ↦ ?_
    cases v.truthy with
    | false => exact ih
    | true => exact .refl _

theorem refines_meets (h : evaluator.RefinesAt evaluator' context context')
    (value expected : Value) :
    Refines (meets evaluator context value expected)
      (meets evaluator' context' value expected) := by
  rw [meets, meets, h.isExpression]
  split
  · exact .refl _
  · split
    · exact (h.evaluate value expected).bind fun _ ↦ .refl _
    · exact .refl _

theorem refines_objectMatches (h : evaluator.RefinesAt evaluator' context context')
    (criteria : Entries) (value : Value) :
    Refines (objectMatches criteria value context evaluator)
      (objectMatches criteria value context' evaluator') := by
  induction criteria with
  | nil => exact .refl _
  | cons pair rest ih =>
    refine (refines_meets h _ _).bind fun met ↦ ?_
    cases met with
    | false => exact .refl _
    | true => exact ih

theorem refines_urlMatches (h : evaluator.RefinesAt evaluator' context context')
    (criteria : Entries) (url : String) :
    Refines (urlMatches criteria url evaluator context)
      (urlMatches criteria url evaluator' context') := by
  refine (Refines.refl _).bind fun record ↦ ?_
  exact (h.evaluate _ _).bind fun _ ↦ .refl _

end Blind

/-- A handler that looks at its arguments alone. -/
theorem depthBlind_of_arguments {handler : Handler}
    (h : ∀ arguments context context' evaluator evaluator',
      handler arguments context' evaluator' = handler arguments context evaluator) :
    handler.DepthBlind :=
  fun evaluator evaluator' context context' _ _ arguments ↦
    .inr (h arguments context context' evaluator evaluator')

theorem depthBlind_value : Handler.DepthBlind Builtin.value := by
  intro evaluator evaluator' context context' hsubject h arguments
  rw [Builtin.value, Builtin.value, hsubject]
  exact .refl _

theorem depthBlind_conjunction : Handler.DepthBlind Builtin.conjunction := by
  intro evaluator evaluator' context context' hsubject h arguments
  exact (refines_allTruthy (h.descend hsubject) _).bind fun _ ↦ .refl _

theorem depthBlind_disjunction : Handler.DepthBlind Builtin.disjunction := by
  intro evaluator evaluator' context context' hsubject h arguments
  exact (refines_anyTruthy (h.descend hsubject) _).bind fun _ ↦ .refl _

theorem depthBlind_stringTest (test : Text → Text → Bool) :
    Handler.DepthBlind (Builtin.stringTest test) := by
  exact depthBlind_of_arguments fun _ _ _ _ _ ↦ rfl

theorem depthBlind_matching : Handler.DepthBlind Builtin.matching := by
  intro evaluator evaluator' context context' hsubject h arguments
  rw [Builtin.matching, Builtin.matching]
  split
  · exact (refines_objectMatches h _ _).bind fun _ ↦ .refl _
  · exact .refl _

theorem depthBlind_url : Handler.DepthBlind UrlOperation.url := by
  intro evaluator evaluator' context context' hsubject h arguments
  rw [UrlOperation.url, UrlOperation.url, h.defaultBase]
  exact .refl _

theorem depthBlind_urlMatching : Handler.DepthBlind UrlOperation.matching := by
  intro evaluator evaluator' context context' hsubject h arguments
  rw [UrlOperation.matching, UrlOperation.matching]
  split
  · exact (refines_urlMatches h _ _).bind fun _ ↦ .refl _
  · exact .refl _

theorem depthBlind_of_mem_stockOperations {op : Operation} (h : op ∈ Engine.stockOperations) :
    op.handler.DepthBlind := by
  simp only [Engine.stockOperations, Builtin.operations, UrlOperation.operations, List.cons_append,
    List.nil_append, List.mem_cons, List.not_mem_nil, or_false] at h
  rcases h with rfl | rfl | rfl | rfl | rfl | rfl | rfl | rfl | rfl | rfl | rfl | rfl | rfl | rfl |
    rfl | rfl | rfl
  · exact depthBlind_value
  · exact depthBlind_of_arguments fun _ _ _ _ _ ↦ rfl
  · exact depthBlind_of_arguments fun _ _ _ _ _ ↦ rfl
  · exact depthBlind_of_arguments fun _ _ _ _ _ ↦ rfl
  · exact depthBlind_of_arguments fun _ _ _ _ _ ↦ rfl
  · exact depthBlind_of_arguments fun _ _ _ _ _ ↦ rfl
  · exact depthBlind_of_arguments fun _ _ _ _ _ ↦ rfl
  · exact depthBlind_conjunction
  · exact depthBlind_disjunction
  · exact depthBlind_stringTest _
  · exact depthBlind_stringTest _
  · exact depthBlind_stringTest _
  · exact depthBlind_matching
  · exact depthBlind_url
  · exact depthBlind_of_arguments fun _ _ _ _ _ ↦ rfl
  · exact depthBlind_urlMatching
  · exact depthBlind_of_arguments fun _ _ _ _ _ ↦ rfl

/-! ## Evaluation -/

namespace Engine

/-- Two engines that know the same operations and complete field sets with the same base. -/
structure SameUpToLimit (engine engine' : Engine) : Prop where
  operation? : ∀ name, engine'.operation? name = engine.operation? name
  defaultBase : engine'.config.defaultBase = engine.config.defaultBase

theorem SameUpToLimit.refl (engine : Engine) : engine.SameUpToLimit engine := ⟨fun _ ↦ rfl, rfl⟩

theorem SameUpToLimit.call?_eq {engine engine' : Engine} (h : engine.SameUpToLimit engine')
    (expression : Value) : engine'.call? expression = engine.call? expression := by
  unfold call?
  split
  · rw [h.operation?]
  · rfl

theorem operation?_of_call? {engine : Engine} {expression : Value} {op : Operation}
    {written : List Value} (h : engine.call? expression = some (op, written)) :
    ∃ name, engine.operation? name = some op ∧ expression = .array (.string name :: written) := by
  unfold call? at h
  split at h
  · rename_i name arguments
    obtain ⟨o, ho, heq⟩ := Option.map_eq_some_iff.1 h
    cases heq
    exact ⟨name, ho, rfl⟩
  · exact absurd h (by simp)

theorem isExpression_eq_true_iff {engine : Engine} {expression : Value} :
    engine.isExpression expression = true ↔
      ∃ op written, engine.call? expression = some (op, written) := by
  rw [isExpression, Option.isSome_iff_exists]
  constructor
  · rintro ⟨⟨op, written⟩, h⟩
    exact ⟨op, written, h⟩
  · rintro ⟨op, written, h⟩
    exact ⟨(op, written), h⟩

/-- What a handler is given to evaluate with, at two depths of which the second has at least as much
room as the first. -/
theorem refinesAt_evaluatorBelow {engine engine' : Engine} (h : engine.SameUpToLimit engine')
    {context context' : Context}
    (hinner : ∀ subject expression,
      Refines (engine.evaluate (context.withSubject subject) expression)
        (engine'.evaluate (context'.withSubject subject) expression)) :
    (engine.evaluatorBelow context).RefinesAt (engine'.evaluatorBelow context') context
      context' where
  isExpression := by
    funext expression
    change engine'.isExpression expression = engine.isExpression expression
    rw [isExpression, isExpression, h.call?_eq]
  defaultBase := h.defaultBase
  evaluate subject expression := by
    have hlt : ∀ c : Context, c.depth < (c.withSubject subject).depth := by
      intro c
      simp
    simp only [evaluatorBelow, hlt, if_true]
    exact hinner subject expression

theorem refines_callArguments {engine engine' : Engine} {context context' : Context}
    (hsubject : context'.subject = context.subject)
    (hinner : ∀ subject expression,
      Refines (engine.evaluate (context.withSubject subject) expression)
        (engine'.evaluate (context'.withSubject subject) expression))
    (op : Operation) (written : List Value) :
    Refines (engine.callArguments op context written)
      (engine'.callArguments op context' written) := by
  rw [callArguments, callArguments]
  split
  · refine Refines.mapM (fun a ↦ ?_) written
    rw [Context.descend_eq_withSubject hsubject]
    exact (hinner context.subject a).bind fun _ ↦ .refl _
  · exact .refl _

/-- **More room changes nothing.** Of two evaluations of one expression about one subject, the one
with at least as much room below its limit gives the result of the other, unless that ran out of
depth. -/
theorem refines_evaluate {engine engine' : Engine} (h : engine.SameUpToLimit engine')
    (hblind : ∀ name op, engine.operation? name = some op → op.handler.DepthBlind)
    {context context' : Context} (hsubject : context'.subject = context.subject)
    (hroom : engine.config.maxDepth + context'.depth ≤ engine'.config.maxDepth + context.depth)
    (expression : Value) :
    Refines (engine.evaluate context expression) (engine'.evaluate context' expression) := by
  -- the second evaluation goes along with the first, which may run out of depth earlier
  induction context, expression using evaluate_induction engine generalizing context' with
  | notCall context expression hcall =>
    have hcall' : engine'.call? expression = none := (h.call?_eq expression).trans hcall
    rw [evaluate_of_not_call hcall, evaluate_of_not_call hcall']
    exact .refl _
  | limit context expression hcall hdepth =>
    exact .inl ⟨engine.config.maxDepth, evaluate_of_call_of_le hcall hdepth⟩
  | call context expression op written hcall hdepth ih =>
    have hcall' : engine'.call? expression = some (op, written) :=
      (h.call?_eq expression).trans hcall
    have hinner : ∀ subject e, Refines (engine.evaluate (context.withSubject subject) e)
        (engine'.evaluate (context'.withSubject subject) e) := by
      intro subject e
      refine ih _ e (Nat.lt_succ_self _) rfl ?_
      simp only [Context.depth_withSubject]
      omega
    obtain ⟨name, hop, -⟩ := operation?_of_call? hcall
    have hbelow := refinesAt_evaluatorBelow h hinner
    -- the arguments refine one another, their check is the same, and the handler is blind
    rw [evaluate_of_call hcall hdepth, evaluate_of_call hcall' (by omega)]
    refine (refines_callArguments hsubject hinner op written).bind fun arguments ↦ ?_
    rw [Operation.invoke, Operation.invoke, Operation.prepare, Operation.prepare, hsubject]
    refine (Refines.refl _).bind fun _ ↦ ?_
    exact hblind name op hop hsubject hbelow _

/-- A stock engine gives one result at every depth that leaves it enough room. -/
theorem IsStock.refines_evaluate {engine : Engine} (h : engine.IsStock) {context context' : Context}
    (hsubject : context'.subject = context.subject) (hdepth : context'.depth ≤ context.depth)
    (expression : Value) :
    Refines (engine.evaluate context expression) (engine.evaluate context' expression) := by
  refine Engine.refines_evaluate (.refl engine) ?_ hsubject (by omega) expression
  intro name op hop
  exact depthBlind_of_mem_stockOperations (h.mem_of_operation? hop)

/-- Stock engines that know the same names know them by the same operations. -/
theorem IsStock.sameUpToLimit {engine engine' : Engine} (h : engine.IsStock) (h' : engine'.IsStock)
    (hcontains : ∀ name, engine'.contains name = engine.contains name)
    (hbase : engine'.config.defaultBase = engine.config.defaultBase) :
    engine.SameUpToLimit engine' where
  operation? name := by
    have hname := hcontains name
    rw [contains, contains] at hname
    rcases h.operation?_eq name with hnone | hstock
    · rw [hnone] at hname ⊢
      simpa using hname
    · rcases h'.operation?_eq name with hnone' | hstock'
      · rw [hnone'] at hname ⊢
        exact (Option.not_isSome_iff_eq_none.mp (by simp [← hname])).symm
      · exact hstock'.trans hstock.symm
  defaultBase := hbase

/-- **Only the room below the limit counts.** Of two engines with the same operations of this
library, the one with at least as much room between its depth and its limit gives the result of the
other, value or error, unless that ran out of depth. -/
theorem IsStock.evaluate_eq_of_room {engine engine' : Engine} (h : engine.IsStock)
    (h' : engine'.IsStock) (hcontains : ∀ name, engine'.contains name = engine.contains name)
    (hbase : engine'.config.defaultBase = engine.config.defaultBase) {subject expression : Value}
    {depth depth' : Nat}
    (hroom : (engine.config.maxDepth : Int) - depth ≤ engine'.config.maxDepth - depth')
    {r : Except Error Value} (hresult : engine.evaluate ⟨subject, depth⟩ expression = r)
    (hne : ∀ limit, r ≠ .error (.depthExceeded limit)) :
    engine'.evaluate ⟨subject, depth'⟩ expression = r := by
  have hsame := h.sameUpToLimit h' hcontains hbase
  have hblind : ∀ name op, engine.operation? name = some op → op.handler.DepthBlind :=
    fun _ _ hop ↦ depthBlind_of_mem_stockOperations (h.mem_of_operation? hop)
  have hrefines : Refines (engine.evaluate ⟨subject, depth⟩ expression)
      (engine'.evaluate ⟨subject, depth'⟩ expression) := by
    refine Engine.refines_evaluate hsame hblind ?_ ?_ expression
    · rfl
    · simp only
      omega
  rw [hresult] at hrefines
  exact hrefines.eq_of_ne hne

/-- A negation needs one level of room. -/
theorem evaluate_negation {engine : Engine} {context : Context}
    (hop : engine.operation? "$not" = some (.of "$not" [Builtin.anyValue] Builtin.negation))
    (hdepth : context.depth < engine.config.maxDepth) (b : Bool) :
    engine.evaluate context (.array [.string "$not", .bool b]) = .ok (.bool !b) := by
  have hcall : engine.call? (.array [.string "$not", .bool b]) =
      some (.of "$not" [Builtin.anyValue] Builtin.negation, [.bool b]) := by
    rw [call?, hop]
    rfl
  have harguments : engine.callArguments (.of "$not" [Builtin.anyValue] Builtin.negation) context
      [.bool b] = .ok [some (.bool b)] := by
    rw [callArguments, if_pos (by rfl), List.mapM_cons, evaluate_of_not_call (by rfl)]
    rfl
  rw [evaluate_of_call hcall hdepth, harguments]
  rfl

theorem evaluate_negation_of_room :
    let shallow := standard { maxDepth := 1 }
    let deep := standard {}
    let negation := Value.array [.string "$not", .bool true]
    shallow.IsStock ∧ deep.IsStock ∧ (∀ name, deep.contains name = shallow.contains name) ∧
      (shallow.config.maxDepth : Int) - (0 : Nat) ≤ deep.config.maxDepth - (63 : Nat) ∧
      shallow.evaluate ⟨.null, 0⟩ negation = .ok (.bool false) ∧
      deep.evaluate ⟨.null, 63⟩ negation = .ok (.bool false) := by
  intro shallow deep negation
  have hshallow : shallow.IsStock := isStock_standard _
  have hdeep : deep.IsStock := isStock_standard _
  have hcontains (name : String) : deep.contains name = shallow.contains name := by
    rw [contains, contains, operation?_standard, operation?_standard]
  have hroom : (shallow.config.maxDepth : Int) - (0 : Nat) ≤ deep.config.maxDepth - (63 : Nat) := by
    rw [config_standard, config_standard]
    decide
  have hresult : shallow.evaluate ⟨.null, 0⟩ negation = .ok (.bool false) := by
    refine evaluate_negation ((operation?_standard _ _).trans rfl) ?_ true
    rw [config_standard]
    decide
  refine ⟨hshallow, hdeep, hcontains, hroom, hresult, ?_⟩
  exact hshallow.evaluate_eq_of_room hdeep hcontains (by rw [config_standard, config_standard])
    hroom hresult (by simp)

end Engine

end UrlCalculus
