import UrlCalculus.Proofs.Expr.Quotation
import UrlCalculus.Proofs.Json.Equality

/-!
# Equality that is asked for and equality that is computed

An expectation that is no call asks for equality with itself, and a quotation asks for equality with
what it quotes; both are told by their looks, and nothing is evaluated. The same can be asked for by
a call: the comparison of the subject with the quoted value. That goes through the evaluation of
arguments and the default argument, and the two sides of the comparison change places.

Both ways find the same values equal, whatever is compared: null, arrays that look like calls, and
quotations. Any expectations of criteria may be rephrased so, at once. The comparison takes two
levels of room below the limit, one for the call and one for its quotation. And it takes values with
distinct keys, as all values are that have been read, for else equality is not symmetric.
-/

namespace UrlCalculus

/-- The call that compares its subject with a value. -/
def Value.comparison (v : Value) : Value := .array [.string "$eq", v.quotation]

namespace Engine

/-- The second expectation is the first one, or it computes the equality that the first one asks
for. -/
inductive Rephrases (engine : Engine) : Value → Value → Prop where
  | kept (expected : Value) : Rephrases engine expected expected
  | plain {expected : Value} :
      expected.quoted? = none → engine.isExpression expected = false →
      Rephrases engine expected expected.comparison
  | quoted {expected v : Value} :
      expected.quoted? = some v → Rephrases engine expected v.comparison

/-- Criteria with any of their expectations rephrased. -/
def RephrasesCriteria (engine : Engine) : Entries → Entries → Prop :=
  List.Forall₂ fun pair pair' ↦ pair'.1 = pair.1 ∧ engine.Rephrases pair.2 pair'.2

/-- The operation that compares two values. -/
def equalOperation : Operation :=
  .of "$eq" [⟨"compare", .any⟩, Builtin.anyValue] Builtin.equal

theorem stock?_equal : stock? "$eq" = some equalOperation := rfl

variable {engine : Engine} {context : Context}

theorem invoke_equalOperation_subject (v : Value) (evaluator : Evaluator) :
    equalOperation.invoke [some v] context evaluator = .ok (.bool (v.same context.subject)) := by
  have hchecked : Operation.checkArguments equalOperation.name equalOperation.parameters
      [some v, some context.subject] = .ok () := by
    exact (checkArguments_cons (check_any _)).trans
      ((checkArguments_cons (check_any _)).trans (checkArguments_nil _ _))
  rw [Operation.invoke, show equalOperation.prepare [some v] context =
    [some v, some context.subject] from rfl, hchecked, ok_bind]
  rfl

theorem evaluate_comparison (hequal : engine.operation? "$eq" = some equalOperation)
    (hliteral : engine.operation? literalName = some literalOperation)
    (hdepth : context.depth + 1 < engine.config.maxDepth) (v : Value) :
    engine.evaluate context v.comparison = .ok (.bool (v.same context.subject)) := by
  have hargument : engine.evaluate context.descend v.quotation = .ok v :=
    evaluate_quotation hliteral hdepth v
  rw [Value.comparison, evaluate_of_operation? hequal (Nat.lt_of_succ_lt hdepth),
    callArguments_cons rfl, callArguments_nil rfl, hargument]
  exact invoke_equalOperation_subject v (engine.evaluatorBelow context)

theorem meets_comparison (hequal : engine.operation? "$eq" = some equalOperation)
    (hliteral : engine.operation? literalName = some literalOperation)
    (hdepth : context.depth + 2 < engine.config.maxDepth) (value v : Value) :
    meets engine.evaluator context value v.comparison = .ok (v.same value) := by
  have hcall : engine.evaluator.isExpression v.comparison = true :=
    isExpression_of_operation? hequal _
  have hevaluate : engine.evaluator.evaluate (context.withSubject value) v.comparison =
      .ok (.bool (v.same value)) := evaluate_comparison hequal hliteral hdepth v
  rw [meets_of_call rfl hcall, hevaluate]
  rfl

/-- What is quoted is a part of the quotation, or null. -/
theorem distinctKeys_of_quoted? {expected v : Value} (hquoted : expected.quoted? = some v)
    (h : expected.distinctKeys = true) : v.distinctKeys = true := by
  unfold Value.quoted? at hquoted
  split at hquoted
  · rename_i head operands
    split at hquoted
    · cases hquoted
      cases operands with
      | nil => rfl
      | cons operand rest =>
        have hmem : operand ∈ .string head :: operand :: rest :=
          List.mem_cons_of_mem _ List.mem_cons_self
        exact Value.distinctKeys_array_iff.mp h operand hmem
    · cases hquoted
  · cases hquoted

theorem meets_eq_of_rephrases (hequal : engine.operation? "$eq" = some equalOperation)
    (hliteral : engine.operation? literalName = some literalOperation)
    (hdepth : context.depth + 2 < engine.config.maxDepth) {value expected expected' : Value}
    (hvalue : value.distinctKeys = true) (hexpected : expected.distinctKeys = true)
    (h : engine.Rephrases expected expected') :
    meets engine.evaluator context value expected' =
      meets engine.evaluator context value expected := by
  cases h with
  | kept => rfl
  | plain hquoted hcall =>
    rw [meets_comparison hequal hliteral hdepth, meets_of_plain hquoted hcall,
      Value.same_comm hexpected hvalue]
  | quoted hquoted =>
    rename_i v
    have hv := distinctKeys_of_quoted? hquoted hexpected
    rw [meets_comparison hequal hliteral hdepth, meets_of_quoted hquoted,
      Value.same_comm hv hvalue]

/-- **Equality may be computed instead of asked for.** Where comparison and quotation are what they
are in this library, criteria with any of their plain and quoted expectations replaced by comparisons
have the outcome of the criteria themselves, value or error. -/
theorem objectMatches_eq_of_rephrases (hequal : engine.operation? "$eq" = some equalOperation)
    (hliteral : engine.operation? literalName = some literalOperation)
    (hdepth : context.depth + 2 < engine.config.maxDepth) {criteria criteria' : Entries}
    {value : Value} (hvalue : value.distinctKeys = true)
    (hcriteria : (Value.object criteria).distinctKeys = true)
    (h : engine.RephrasesCriteria criteria criteria') :
    objectMatches criteria' value context engine.evaluator =
      objectMatches criteria value context engine.evaluator := by
  have hexpected := (Value.distinctKeys_object_iff.mp hcriteria).2
  clear hcriteria
  induction h with
  | nil => rfl
  | @cons pair pair' rest rest' hpair _ ih =>
    obtain ⟨path, expected⟩ := pair
    obtain ⟨path', expected'⟩ := pair'
    obtain ⟨rfl, hpair⟩ := hpair
    obtain ⟨hhead, hrest⟩ := List.forall_mem_cons.mp hexpected
    have hmeets := meets_eq_of_rephrases hequal hliteral hdepth
      (Value.distinctKeys_getD_resolve? hvalue path') hhead hpair
    rw [objectMatches_cons, objectMatches_singleton, hmeets, ih hrest, ← objectMatches_singleton,
      ← objectMatches_cons]

/-- A quoted value that looks like a call, a quotation that quotes nothing, null, and a call, which
stays. -/
theorem objectMatches_eq_of_rephrases_mixed :
    let call := Value.array [.string "$not", .bool true]
    let value := Value.object [("a", call), ("b", .null)]
    let last := ("a.1", Value.array [.string "$exists"])
    let criteria := [("a", call.quotation), ("b", .array [.string literalName]), ("c", .null), last]
    let criteria' := [("a", call.comparison), ("b", Value.null.comparison),
      ("c", Value.null.comparison), last]
    (standard {}).operation? "$eq" = some equalOperation ∧
      (standard {}).operation? literalName = some literalOperation ∧
      (Context.root .null).depth + 2 < (standard {}).config.maxDepth ∧
      value.distinctKeys = true ∧ (Value.object criteria).distinctKeys = true ∧
      (standard {}).RephrasesCriteria criteria criteria' ∧
      objectMatches criteria' value (.root .null) (standard {}).evaluator =
        objectMatches criteria value (.root .null) (standard {}).evaluator := by
  intro call value last criteria criteria'
  have hequal := (operation?_standard {} "$eq").trans stock?_equal
  have hliteral := (operation?_standard {} literalName).trans stock?_literalName
  have hdepth : (Context.root .null).depth + 2 < (standard {}).config.maxDepth := by
    rw [config_standard]
    decide
  have hvalue : value.distinctKeys = true := rfl
  have hcriteria : (Value.object criteria).distinctKeys = true := rfl
  have hrephrases : (standard {}).RephrasesCriteria criteria criteria' := by
    refine .cons ⟨rfl, .quoted rfl⟩ (.cons ⟨rfl, .quoted rfl⟩ (.cons ⟨rfl, .plain rfl rfl⟩ ?_))
    exact .cons ⟨rfl, .kept _⟩ .nil
  exact ⟨hequal, hliteral, hdepth, hvalue, hcriteria, hrephrases,
    objectMatches_eq_of_rephrases hequal hliteral hdepth hvalue hcriteria hrephrases⟩

end Engine

end UrlCalculus
