import UrlCalculus.Proofs.Expr.Termination
import UrlCalculus.Proofs.Json.Part

/-!
# Where values come from

Evaluation puts no arrays together. The operations of this library answer with truth values, strings
and records, and none of these has an array in it; the two exceptions give out what was there
before, a quotation its operand and access to the subject a part of the subject. So every array in
the value of an expression stands word for word in the expression or in the subject.

This is what tells text from expressions: a string that was decoded from a URL can be equal to the
name of an operation, but it never gets in front of an array.
-/

namespace UrlCalculus

/-! ## Records -/

theorem Record.arrayless_toValue (r : Record) : r.toValue.Arrayless := by
  have hparams : r.searchParamsValue.Arrayless := by
    refine Value.arrayless_object fun entry hentry ↦ ?_
    obtain ⟨_, -, rfl⟩ := List.mem_map.mp hentry
    exact Value.arrayless_string _
  refine Value.arrayless_object ?_
  simp [Value.arrayless_string, hparams]

/-! ## What handlers answer -/

/-- The answers of a handler have no arrays in them. -/
def Handler.AnswersArrayless (handler : Handler) : Prop :=
  ∀ arguments context evaluator v, handler arguments context evaluator = .ok v → v.Arrayless

/-- A handler that answers with a truth value, if at all. -/
theorem answersArrayless_of_bool {handler : Handler}
    (h : ∀ arguments context evaluator, ∃ r : Except Error Bool,
      handler arguments context evaluator = r >>= fun b ↦ .ok (.bool b)) :
    handler.AnswersArrayless := by
  intro arguments context evaluator v hv
  obtain ⟨r, hr⟩ := h arguments context evaluator
  rw [hr] at hv
  obtain ⟨b, -, hb⟩ := bind_eq_ok_iff.mp hv
  cases hb
  exact Value.arrayless_bool b

theorem answersArrayless_stringTest (test : Text → Text → Bool) :
    Handler.AnswersArrayless (Builtin.stringTest test) := by
  apply answersArrayless_of_bool
  intro arguments context evaluator
  rw [Builtin.stringTest]
  split
  · exact ⟨.ok _, rfl⟩
  · exact ⟨.ok false, rfl⟩

theorem answersArrayless_matching : Handler.AnswersArrayless Builtin.matching := by
  apply answersArrayless_of_bool
  intro arguments context evaluator
  rw [Builtin.matching]
  split
  · exact ⟨_, rfl⟩
  · exact ⟨.error _, rfl⟩

theorem answersArrayless_urlMatching : Handler.AnswersArrayless UrlOperation.matching := by
  apply answersArrayless_of_bool
  intro arguments context evaluator
  rw [UrlOperation.matching]
  split
  · exact ⟨_, rfl⟩
  · exact ⟨.error _, rfl⟩

theorem answersArrayless_url : Handler.AnswersArrayless UrlOperation.url := by
  intro arguments context evaluator v hv
  obtain ⟨source, -, hv⟩ := bind_eq_ok_iff.mp hv
  obtain ⟨href, -, hv⟩ := bind_eq_ok_iff.mp hv
  cases hv
  exact Value.arrayless_string href

theorem answersArrayless_set : Handler.AnswersArrayless UrlOperation.set := by
  intro arguments context evaluator v hv
  obtain ⟨f, -, hv⟩ := bind_eq_ok_iff.mp hv
  obtain ⟨href, -, hv⟩ := bind_eq_ok_iff.mp hv
  cases hv
  exact Value.arrayless_string href

theorem answersArrayless_parse : Handler.AnswersArrayless UrlOperation.parse := by
  intro arguments context evaluator v hv
  obtain ⟨record, -, hv⟩ := bind_eq_ok_iff.mp hv
  cases hv
  exact record.arrayless_toValue

/-- All operations of this library answer without arrays, but for quotation and access to the
subject. -/
theorem answersArrayless_of_mem_stockOperations {op : Operation} (h : op ∈ Engine.stockOperations)
    (hliteral : op.name ≠ literalName) (hvalue : op.name ≠ "$value") :
    op.handler.AnswersArrayless := by
  simp only [Engine.stockOperations, Builtin.operations, UrlOperation.operations, List.cons_append,
    List.nil_append, List.mem_cons, List.not_mem_nil, or_false] at h
  rcases h with rfl | rfl | rfl | rfl | rfl | rfl | rfl | rfl | rfl | rfl | rfl | rfl | rfl | rfl |
    rfl | rfl | rfl
  · exact absurd rfl hvalue
  · exact absurd rfl hliteral
  · exact answersArrayless_of_bool fun _ _ _ ↦ ⟨.ok _, rfl⟩
  · exact answersArrayless_of_bool fun _ _ _ ↦ ⟨.ok _, rfl⟩
  · exact answersArrayless_of_bool fun _ _ _ ↦ ⟨.ok _, rfl⟩
  · exact answersArrayless_of_bool fun _ _ _ ↦ ⟨.ok _, rfl⟩
  · exact answersArrayless_of_bool fun _ _ _ ↦ ⟨.ok _, rfl⟩
  · exact answersArrayless_of_bool fun _ _ _ ↦ ⟨_, rfl⟩
  · exact answersArrayless_of_bool fun _ _ _ ↦ ⟨_, rfl⟩
  · exact answersArrayless_stringTest _
  · exact answersArrayless_stringTest _
  · exact answersArrayless_stringTest _
  · exact answersArrayless_matching
  · exact answersArrayless_url
  · exact answersArrayless_parse
  · exact answersArrayless_urlMatching
  · exact answersArrayless_set

/-- Access to the subject gives null or what stands at a path of the subject. -/
theorem of_value_eq_ok (arguments : Arguments) (context : Context) (evaluator : Evaluator)
    {v : Value} (hv : Builtin.value arguments context evaluator = .ok v) :
    v.Arrayless ∨ ∃ path, context.subject.resolve? path = some v := by
  rw [Builtin.value] at hv
  split at hv
  · rename_i path _
    cases hv
    cases hpath : context.subject.resolve? path with
    | none => exact .inl Value.arrayless_null
    | some w => exact .inr ⟨path, hpath⟩
  · cases hv
    exact .inr ⟨"", Value.resolve?_empty _⟩

/-! ## What evaluation gives -/

namespace Engine

/-- Where the value of an expression in a context can come from. -/
inductive Origin (context : Context) (expression : Value) : Value → Prop where
  | itself : Origin context expression expression
  | arrayless {v : Value} : v.Arrayless → Origin context expression v
  | quoted {operand : Value} {rest : List Value} :
      expression = .array (.string literalName :: operand :: rest) →
      Origin context expression operand
  | fetched {v : Value} {path : String} {written : List Value} :
      expression = .array (.string "$value" :: written) →
      context.subject.resolve? path = some v → Origin context expression v

def literalOperation : Operation :=
  ((Operation.of literalName [Builtin.anyValue] Builtin.literal).withDefaultPlace
    none).withRawArguments

theorem stock?_literalName : stock? literalName = some literalOperation := rfl

theorem stock?_value : stock? "$value" = some valueOperation := rfl

/-- The operand of a quotation is taken as it is written, and null if it is not. -/
theorem argumentOrNull_prepare_literal (context : Context) (written : List Value) :
    argumentOrNull (literalOperation.prepare (written.map some) context) 0 =
      written.head?.getD .null := by
  cases written <;> rfl

/-- An operation of this library is told by its name. -/
theorem eq_of_stock?_name {op o : Operation} (h : op ∈ stockOperations)
    (ho : stock? op.name = some o) : op = o :=
  Option.some.inj ((stock?_name h).symm.trans ho)

variable {engine : Engine} {context : Context} {expression v : Value}

/-- The operation of a call has the name that the call begins with. -/
theorem eq_of_call? {op : Operation} {written : List Value}
    (h : engine.call? expression = some (op, written)) :
    engine.operation? op.name = some op ∧ expression = .array (.string op.name :: written) := by
  obtain ⟨name, hop, rfl⟩ := operation?_of_call? h
  obtain rfl : op.name = name := by simpa using List.find?_some hop
  exact ⟨hop, rfl⟩

/-- **Every value has an origin**: the expression itself, an operation that makes no arrays, a
quotation in the expression, or a place in the subject. -/
theorem IsStock.origin_of_evaluate (h : engine.IsStock)
    (hv : engine.evaluate context expression = .ok v) : Origin context expression v := by
  cases hcall : engine.call? expression with
  | none =>
    rw [evaluate_of_not_call hcall] at hv
    cases hv
    exact .itself
  | some found =>
    obtain ⟨op, written⟩ := found
    obtain ⟨hop, hexpression⟩ := eq_of_call? hcall
    have hstock := h.mem_of_operation? hop
    by_cases hdepth : context.depth < engine.config.maxDepth
    · rw [evaluate_of_call hcall hdepth] at hv
      obtain ⟨arguments, harguments, hv⟩ := bind_eq_ok_iff.mp hv
      obtain ⟨-, hv⟩ := check_bind_eq_ok_iff.mp hv
      by_cases hliteral : op.name = literalName
      · -- the operand of a quotation is handed over unevaluated
        obtain rfl := eq_of_stock?_name hstock (hliteral ▸ stock?_literalName)
        obtain rfl : written.map some = arguments := Except.ok.inj harguments
        obtain rfl : argumentOrNull _ 0 = v := Except.ok.inj hv
        rw [argumentOrNull_prepare_literal]
        cases written with
        | nil => exact .arrayless Value.arrayless_null
        | cons operand rest => exact .quoted hexpression
      by_cases hvalue : op.name = "$value"
      · obtain rfl := eq_of_stock?_name hstock (hvalue ▸ stock?_value)
        rcases of_value_eq_ok _ context (engine.evaluatorBelow context) hv with hv | ⟨path, hpath⟩
        · exact .arrayless hv
        · exact .fetched hexpression hpath
      · exact .arrayless (answersArrayless_of_mem_stockOperations hstock hliteral hvalue _ _ _ _ hv)
    · rw [evaluate_of_call_of_le (isExpression_eq_true_iff.mpr ⟨op, written, hcall⟩) (by omega)]
        at hv
      cases hv

/-- **Evaluation makes no arrays.** Each array in a value stands in the expression or in the
subject. -/
theorem IsStock.part_of_evaluate (h : engine.IsStock)
    (hv : engine.evaluate context expression = .ok v) {items : List Value}
    (hpart : Value.Part (.array items) v) :
    Value.Part (.array items) expression ∨ Value.Part (.array items) context.subject := by
  cases h.origin_of_evaluate hv with
  | itself => exact .inl hpart
  | arrayless hv => exact absurd hpart (hv items)
  | quoted hexpression =>
    rw [hexpression]
    exact .inl (.item (List.mem_cons_of_mem _ List.mem_cons_self) hpart)
  | fetched _ hpath => exact .inr (hpart.trans (Value.part_of_resolve? hpath))

/-- What neither the expression nor the subject mentions, its value does not mention. -/
theorem IsStock.not_mentions_of_evaluate (h : engine.IsStock)
    (hv : engine.evaluate context expression = .ok v) {name : String}
    (hexpression : ¬expression.Mentions name) (hsubject : ¬context.subject.Mentions name) :
    ¬v.Mentions name := by
  rintro ⟨arguments, hpart⟩
  rcases h.part_of_evaluate hv hpart with hpart | hpart
  · exact hexpression ⟨arguments, hpart⟩
  · exact hsubject ⟨arguments, hpart⟩

end Engine

end UrlCalculus
