import UrlCalculus.Proofs.Expr.Conjunction
import UrlCalculus.Proofs.Expr.Depth
import UrlCalculus.Proofs.Expr.Equation

/-!
# Matching

What the two operations that match against criteria give, said without reference to how the engine
calls them.

A stock engine that can match finds that a URL meets criteria exactly when the URL has a record and
every pair is fulfilled by it. A stock engine that cannot match finds the same of every URL that has
a record, whatever the criteria are: the call that asks for the match is then no call, evaluates to
itself, and is truthy.

An engine with all operations matches a URL as it matches the record of the URL. The two routes
evaluate the criteria at different depths, so this rests on the blindness of evaluation to depth.
-/

namespace UrlCalculus

namespace Engine

/-! ## Invoking the operations -/

theorem checkEntries_any (entries : Entries) :
    Spec.checkEntries (fun item ↦ Spec.check .any (some item)) entries = .ok () := by
  induction entries with
  | nil => rfl
  | cons entry rest ih => exact ih

/-- Any object has the type of criteria. -/
theorem check_objectOf_any (entries : Entries) :
    Spec.check (.objectOf .any) (some (.object entries)) = .ok () := by
  rw [Spec.check]
  exact checkEntries_any entries

theorem check_any (value : Option Value) : Spec.check .any value = .ok () := by
  rw [Spec.check]

theorem check_string (s : String) : Spec.check .string (some (.string s)) = .ok () := by
  rw [Spec.check]

/-- An argument of its parameter's type is passed over. -/
theorem checkArguments_cons {op : String} {p : Parameter} {ps : List Parameter}
    {a : Option Value} {as : Arguments} (h : p.spec.check a = .ok ()) :
    Operation.checkArguments op (p :: ps) (a :: as) = Operation.checkArguments op ps as := by
  rw [Operation.checkArguments, Spec.checkArgument, h]
  rfl

theorem checkArguments_nil (op : String) (as : Arguments) :
    Operation.checkArguments op [] as = .ok () := by
  rw [Operation.checkArguments]
  rintro p ps a as h
  exact absurd h (by simp)

/-- The operation that matches any value. -/
def objectMatchesOperation : Operation :=
  .of objectMatchesName [⟨"criteria", .objectOf .any⟩, Builtin.anyValue] Builtin.matching

/-- The operation that matches a URL. -/
def urlMatchesOperation : Operation :=
  .of UrlOperation.matchesName [⟨"criteria", .objectOf .any⟩, ⟨"url", .string⟩]
    UrlOperation.matching

/-- The operation that takes a URL apart. -/
def urlParseOperation : Operation :=
  .of UrlOperation.parseName [⟨"url", .string⟩] UrlOperation.parse

/-- The operation that builds a URL, or completes it with a base. -/
def urlOperation : Operation :=
  (Operation.of UrlOperation.urlName
    [⟨"input", .oneOf [.string, UrlOperation.fieldSetSpec]⟩, ⟨"base", .optional .string⟩]
    UrlOperation.url).withDefaultPlace (some 0)

/-- The operation that changes a URL. -/
def urlSetOperation : Operation :=
  .of UrlOperation.setName [⟨"input", UrlOperation.fieldSetSpec⟩, ⟨"url", .string⟩]
    UrlOperation.set

theorem stock?_objectMatchesName : stock? objectMatchesName = some objectMatchesOperation := rfl

theorem stock?_matchesName : stock? UrlOperation.matchesName = some urlMatchesOperation := rfl

theorem stock?_parseName : stock? UrlOperation.parseName = some urlParseOperation := rfl

theorem stock?_urlName : stock? UrlOperation.urlName = some urlOperation := rfl

theorem stock?_setName : stock? UrlOperation.setName = some urlSetOperation := rfl

variable (criteria : Entries) (context : Context) (evaluator : Evaluator)

theorem invoke_objectMatchesOperation (value : Value) :
    objectMatchesOperation.invoke [some (.object criteria), some value] context evaluator =
      (do return .bool (← objectMatches criteria value context evaluator)) := by
  have hprepared : objectMatchesOperation.prepare [some (.object criteria), some value] context =
      [some (.object criteria), some value] := rfl
  have hchecked : Operation.checkArguments objectMatchesOperation.name
      objectMatchesOperation.parameters [some (.object criteria), some value] = .ok () := by
    exact (checkArguments_cons (check_objectOf_any criteria)).trans
      ((checkArguments_cons (check_any _)).trans (checkArguments_nil _ _))
  rw [Operation.invoke, hprepared, hchecked, ok_bind]
  rfl

theorem invoke_objectMatchesOperation_subject :
    objectMatchesOperation.invoke [some (.object criteria)] context evaluator =
      (do return .bool (← objectMatches criteria context.subject context evaluator)) := by
  rw [← invoke_objectMatchesOperation]
  rfl

theorem invoke_urlMatchesOperation (url : String) :
    urlMatchesOperation.invoke [some (.object criteria), some (.string url)] context evaluator =
      (do return .bool (← urlMatches criteria url evaluator context)) := by
  have hprepared : urlMatchesOperation.prepare [some (.object criteria), some (.string url)]
      context = [some (.object criteria), some (.string url)] := rfl
  have hchecked : Operation.checkArguments urlMatchesOperation.name urlMatchesOperation.parameters
      [some (.object criteria), some (.string url)] = .ok () := by
    exact (checkArguments_cons (check_objectOf_any criteria)).trans
      ((checkArguments_cons (check_string url)).trans (checkArguments_nil _ _))
  rw [Operation.invoke, hprepared, hchecked, ok_bind]
  rfl

theorem invoke_urlParseOperation (url : String) :
    urlParseOperation.invoke [some (.string url)] context evaluator =
      (do
        let record ← (Record.parse url).mapError .url
        return record.toValue) := by
  have hprepared : urlParseOperation.prepare [some (.string url)] context =
      [some (.string url)] := rfl
  have hchecked : Operation.checkArguments urlParseOperation.name urlParseOperation.parameters
      [some (.string url)] = .ok () := by
    exact (checkArguments_cons (check_string url)).trans (checkArguments_nil _ _)
  have hargument : (stringArgument? [some (.string url)] 0).getD "" = url := rfl
  rw [Operation.invoke, hprepared, hchecked, ok_bind]
  change UrlOperation.parse [some (.string url)] context evaluator = _
  rw [UrlOperation.parse, hargument]

/-! ## Evaluating the calls -/

variable {engine : Engine} {criteria : Entries} {context : Context} {evaluator : Evaluator}

theorem evaluate_object (engine : Engine) (context : Context) (entries : Entries) :
    engine.evaluate context (.object entries) = .ok (.object entries) :=
  evaluate_of_not_call rfl context

theorem evaluate_of_operation? {name : String} {op : Operation} {written : List Value}
    (hop : engine.operation? name = some op) (hdepth : context.depth < engine.config.maxDepth) :
    engine.evaluate context (.array (.string name :: written)) = (do
      let arguments ← engine.callArguments op context written
      op.invoke arguments context (engine.evaluatorBelow context)) := by
  refine evaluate_of_call ?_ hdepth
  rw [call?, hop]
  rfl

theorem isExpression_of_operation? {name : String} {op : Operation}
    (hop : engine.operation? name = some op) (written : List Value) :
    engine.isExpression (.array (.string name :: written)) = true := by
  rw [isExpression, call?, hop]
  rfl

theorem callArguments_nil {op : Operation} (h : op.evaluatesArguments = true) :
    engine.callArguments op context [] = .ok [] :=
  Operation.argumentsBy_nil h

theorem callArguments_cons {op : Operation} (h : op.evaluatesArguments = true) (a : Value)
    (rest : List Value) :
    engine.callArguments op context (a :: rest) = (do
      let v ← engine.evaluate context.descend a
      let vs ← engine.callArguments op context rest
      return some v :: vs) :=
  Operation.argumentsBy_cons h a rest

/-- Arguments that are no calls are taken as they are written. -/
theorem evaluate_of_written {name : String} {op : Operation} {written : List Value}
    (hop : engine.operation? name = some op) (hdepth : context.depth < engine.config.maxDepth)
    (h : ∀ a ∈ written, engine.call? a = none) :
    engine.evaluate context (.array (.string name :: written)) =
      op.invoke (written.map some) context (engine.evaluatorBelow context) := by
  have harguments : engine.callArguments op context written = .ok (written.map some) :=
    op.argumentsBy_of_forall fun a ha ↦ evaluate_of_not_call (h a ha) _
  rw [evaluate_of_operation? hop hdepth, harguments, ok_bind]

theorem evaluate_objectMatches_subject
    (hop : engine.operation? objectMatchesName = some objectMatchesOperation)
    (hdepth : context.depth < engine.config.maxDepth) :
    engine.evaluate context (.array [.string objectMatchesName, .object criteria]) = (do
      return .bool (← objectMatches criteria context.subject context
        (engine.evaluatorBelow context))) := by
  rw [evaluate_of_written hop hdepth (by simp [call?])]
  exact invoke_objectMatchesOperation_subject criteria context _

theorem evaluate_urlMatches {url : String}
    (hop : engine.operation? UrlOperation.matchesName = some urlMatchesOperation)
    (hdepth : context.depth < engine.config.maxDepth) :
    engine.evaluate context
        (.array [.string UrlOperation.matchesName, .object criteria, .string url]) = (do
      return .bool (← urlMatches criteria url (engine.evaluatorBelow context) context)) := by
  rw [evaluate_of_written hop hdepth (by simp [call?])]
  exact invoke_urlMatchesOperation criteria context _ url

theorem evaluate_urlParse {url : String}
    (hop : engine.operation? UrlOperation.parseName = some urlParseOperation)
    (hdepth : context.depth < engine.config.maxDepth) :
    engine.evaluate context (.array [.string UrlOperation.parseName, .string url]) = (do
      let record ← (Record.parse url).mapError .url
      return record.toValue) := by
  rw [evaluate_of_written hop hdepth (by simp [call?])]
  exact invoke_urlParseOperation context _ url

/-- Matching what another call evaluates to. -/
theorem evaluate_objectMatches_call {call : Value}
    (hop : engine.operation? objectMatchesName = some objectMatchesOperation)
    (hdepth : context.depth < engine.config.maxDepth) :
    engine.evaluate context (.array [.string objectMatchesName, .object criteria, call]) = (do
      let value ← engine.evaluate context.descend call
      return .bool (← objectMatches criteria value context (engine.evaluatorBelow context))) := by
  have harguments : engine.callArguments objectMatchesOperation context
      [.object criteria, call] = (do
        let value ← engine.evaluate context.descend call
        return [some (.object criteria), some value]) := by
    rw [callArguments_cons rfl, callArguments_cons rfl, callArguments_nil rfl, evaluate_object]
    cases engine.evaluate context.descend call <;> rfl
  rw [evaluate_of_operation? hop hdepth, harguments]
  cases engine.evaluate context.descend call with
  | error e => rfl
  | ok value => exact invoke_objectMatchesOperation criteria context _ value

/-- An evaluator that evaluates one level down as an engine does matches a URL by matching its
record there. -/
theorem urlMatches_eq {url : String}
    (hop : engine.operation? objectMatchesName = some objectMatchesOperation)
    (hdepth : context.depth + 1 < engine.config.maxDepth)
    (heval : ∀ subject e, evaluator.evaluate (context.withSubject subject) e =
      engine.evaluate (context.withSubject subject) e) :
    urlMatches criteria url evaluator context = (do
      let record ← (Record.parse url).mapError .url
      objectMatches criteria record.toValue (context.withSubject record.toValue)
        (engine.evaluatorBelow (context.withSubject record.toValue))) := by
  rw [urlMatches]
  cases Record.parse url with
  | error e => rfl
  | ok record =>
    simp only [mapError_ok, ok_bind]
    rw [heval, evaluate_objectMatches_subject hop hdepth, Context.subject_withSubject]
    cases objectMatches criteria record.toValue _ _ <;> rfl

/-! ## What it means to be matched -/

/-- That the subject of a context fulfils an expectation: it equals the plain value or the quoted
one, or a call about it has a truthy value. -/
inductive Fulfils (engine : Engine) (context : Context) : Value → Prop
  | plain {expected : Value} :
      expected.quoted? = none → engine.isExpression expected = false →
      context.subject.same expected = true → Fulfils engine context expected
  | quoted {expected quoted : Value} :
      expected.quoted? = some quoted → context.subject.same quoted = true →
      Fulfils engine context expected
  | call {expected verdict : Value} :
      expected.quoted? = none → engine.isExpression expected = true →
      engine.evaluate context expected = .ok verdict → verdict.truthy = true →
      Fulfils engine context expected

/-- The value at the path of criteria, null where the path leads nowhere. -/
def valueAt (value : Value) (path : String) : Value := (value.resolve? path).getD .null

theorem meets_eq_ok_true_iff {value expected : Value} :
    meets (engine.evaluatorBelow context) context value expected = .ok true ↔
      engine.Fulfils (context.withSubject value) expected := by
  have hbelow := evaluate_evaluatorBelow engine context value expected
  constructor
  · intro h
    cases hquoted : expected.quoted? with
    | some quoted =>
      rw [meets_of_quoted hquoted] at h
      exact .quoted hquoted (Except.ok.inj h)
    | none =>
      cases hcall : engine.isExpression expected with
      | false =>
        rw [meets_of_plain hquoted hcall] at h
        exact .plain hquoted hcall (Except.ok.inj h)
      | true =>
        rw [meets_of_call hquoted hcall, hbelow] at h
        obtain ⟨verdict, hverdict, htruthy⟩ := bind_eq_ok_iff.1 h
        exact .call hquoted hcall hverdict (Except.ok.inj htruthy)
  · rintro (⟨hquoted, hcall, hsame⟩ | ⟨hquoted, hsame⟩ | ⟨hquoted, hcall, hverdict, htruthy⟩)
    · exact (meets_of_plain hquoted hcall).trans (congrArg Except.ok hsame)
    · exact (meets_of_quoted hquoted).trans (congrArg Except.ok hsame)
    · rw [meets_of_call hquoted hcall, hbelow, hverdict]
      exact congrArg Except.ok htruthy

/-- Criteria are met when every pair is fulfilled. -/
theorem objectMatches_eq_ok_true_iff {value : Value} :
    objectMatches criteria value context (engine.evaluatorBelow context) = .ok true ↔
      ∀ pair ∈ criteria, engine.Fulfils (context.withSubject (valueAt value pair.1)) pair.2 := by
  rw [objectMatches_eq_ok_true_iff_forall]
  refine forall₂_congr fun pair _ ↦ ?_
  rw [objectMatches_singleton]
  exact meets_eq_ok_true_iff

theorem fulfils_string_iff {s : String} :
    engine.Fulfils context (.string s) ↔ context.subject.same (.string s) = true := by
  constructor
  · rintro (⟨-, -, h⟩ | ⟨h, -⟩ | ⟨-, h, -, -⟩)
    · exact h
    · cases h
    · cases h
  · intro h
    exact .plain rfl rfl h

/-! ## Matching URLs -/

/-- Where nothing can match, the call that asks for a match is a value, and a truthy one. -/
theorem urlMatches_eq_of_operation?_eq_none {url : String}
    (hnone : engine.operation? objectMatchesName = none)
    (heval : ∀ subject e, evaluator.evaluate (context.withSubject subject) e =
      engine.evaluate (context.withSubject subject) e) :
    urlMatches criteria url evaluator context = (do
      let _ ← (Record.parse url).mapError .url
      return true) := by
  have hcall : engine.call? (.array [.string objectMatchesName, .object criteria]) = none := by
    rw [call?, hnone]
    rfl
  rw [urlMatches]
  cases Record.parse url with
  | error e => rfl
  | ok record =>
    simp only [mapError_ok, ok_bind]
    rw [heval, evaluate_of_not_call hcall]
    rfl

/-- Where the call that asks for a match is at the limit, no URL matches. -/
theorem urlMatches_eq_of_le {url : String}
    (hop : engine.operation? objectMatchesName = some objectMatchesOperation)
    (hdepth : engine.config.maxDepth ≤ context.depth + 1)
    (heval : ∀ subject e, evaluator.evaluate (context.withSubject subject) e =
      engine.evaluate (context.withSubject subject) e) :
    urlMatches criteria url evaluator context = (do
      let _ ← (Record.parse url).mapError .url
      .error (.depthExceeded engine.config.maxDepth)) := by
  have hcall :
      engine.isExpression (.array [.string objectMatchesName, .object criteria]) = true :=
    isExpression_of_operation? hop _
  rw [urlMatches]
  cases Record.parse url with
  | error e => rfl
  | ok record =>
    simp only [mapError_ok, ok_bind]
    rw [heval, evaluate_of_call_of_le hcall (by rwa [Context.depth_withSubject])]
    rfl

/-- **When a URL is found to match.** A stock engine finds it of a URL that has a record, every pair
being fulfilled by the record; but the pairs count only where the engine has the operation that
matches any value, and without it every URL is found to match that has a record at all. -/
theorem urlMatches_eq_ok_true_iff (hstock : engine.IsStock) (criteria : Entries) (url : String)
    (context : Context) :
    urlMatches criteria url engine.evaluator context = .ok true ↔
      ∃ record, Record.parse url = .ok record ∧
        (engine.contains objectMatchesName = true →
          context.depth + 1 < engine.config.maxDepth ∧
            ∀ pair ∈ criteria,
              engine.Fulfils ⟨valueAt record.toValue pair.1, context.depth + 2⟩ pair.2) := by
  -- a stock engine knows the operation of that name or none: not another one
  rcases hstock.operation?_eq objectMatchesName with hnone | hsome
  · rw [urlMatches_eq_of_operation?_eq_none hnone fun _ _ ↦ rfl, contains, hnone]
    cases Record.parse url <;> simp
  · rw [stock?_objectMatchesName] at hsome
    have hcontains : engine.contains objectMatchesName = true := by
      rw [contains, hsome]
      rfl
    by_cases hdepth : context.depth + 1 < engine.config.maxDepth
    · rw [urlMatches_eq hsome hdepth fun _ _ ↦ rfl]
      cases Record.parse url with
      | error e => simp
      | ok record =>
        simp only [mapError_ok, ok_bind, objectMatches_eq_ok_true_iff, hcontains, hdepth, true_and,
          forall_const, Except.ok.injEq, exists_eq_left']
        rfl
    · rw [urlMatches_eq_of_le hsome (by omega) fun _ _ ↦ rfl]
      cases Record.parse url with
      | error e => simp
      | ok record => simp [hcontains, hdepth]

/-- The record of a small URL. -/
private def smallRecord : Record :=
  { href := "http://a/", origin := "http://a", protocol := "http:", username := "", password := "",
    host := "a", hostname := "a", port := "", pathname := "/", search := "", searchParams := .empty,
    hash := "" }

private theorem parse_smallRecord : Record.parse "http://a/" = .ok smallRecord := by
  rfl

private theorem valueAt_hostname_smallRecord :
    valueAt smallRecord.toValue "hostname" = .string "a" := by
  rfl

theorem urlMatches_standard_ne_ok_true :
    urlMatches [("hostname", .string "b")] "http://a/" (standard {}).evaluator (.root .null) ≠
      .ok true := by
  rw [Ne, urlMatches_eq_ok_true_iff (isStock_standard {})]
  rintro ⟨record, hrecord, h⟩
  cases parse_smallRecord.symm.trans hrecord
  have hfulfils := (h (by rw [contains, operation?_standard]; rfl)).2 _ List.mem_cons_self
  rw [valueAt_hostname_smallRecord, fulfils_string_iff] at hfulfils
  exact absurd hfulfils (by decide)

/-- An engine that matches URLs but no other values finds a match that is none. -/
theorem urlMatches_ok_true_of_unfulfilled :
    let engine := (empty {}).register urlMatchesOperation
    engine.IsStock ∧
      urlMatches [("hostname", .string "b")] "http://a/" engine.evaluator (.root .null) = .ok true ∧
      ∃ record, Record.parse "http://a/" = .ok record ∧
        ¬engine.Fulfils ⟨valueAt record.toValue "hostname", 2⟩ (.string "b") := by
  refine ⟨.register (.empty {}) (mem_of_stock?_eq_some stock?_matchesName), ?_, smallRecord,
    parse_smallRecord, ?_⟩
  · rw [urlMatches_eq_of_operation?_eq_none (by rw [operation?_register]; rfl) fun _ _ ↦ rfl,
      parse_smallRecord]
    rfl
  · rw [valueAt_hostname_smallRecord, fulfils_string_iff]
    decide

/-- **Matching a URL is matching its record.** -/
theorem evaluate_objectMatches_urlParse_eq {config : Config} {criteria : Entries} {url : String}
    {context : Context} {r : Except Error Value} (hdepth : context.depth + 1 < config.maxDepth)
    (hresult : (standard config).evaluate context
      (.array [.string UrlOperation.matchesName, .object criteria, .string url]) = r)
    (hne : ∀ limit, r ≠ .error (.depthExceeded limit)) :
    (standard config).evaluate context
      (.array [.string objectMatchesName, .object criteria,
        .array [.string UrlOperation.parseName, .string url]]) = r := by
  have hmatch : (standard config).operation? objectMatchesName = some objectMatchesOperation :=
    operation?_standard config _
  have hdepth' : context.depth + 1 < (standard config).config.maxDepth := by
    rwa [config_standard]
  rw [evaluate_urlMatches (operation?_standard config _) (by omega),
    urlMatches_eq hmatch hdepth' (by simp [evaluatorBelow])] at hresult
  rw [evaluate_objectMatches_call hmatch (by omega),
    evaluate_urlParse (operation?_standard config _) hdepth']
  cases hrecord : Record.parse url with
  | error e =>
    rw [hrecord] at hresult
    exact hresult
  | ok record =>
    rw [hrecord] at hresult
    simp only [mapError_ok, ok_bind, pure_eq_ok] at hresult ⊢
    -- the criteria are evaluated two levels down on the left and one level down on the right
    have hbelow :
        ((standard config).evaluatorBelow (context.withSubject record.toValue)).RefinesAt
          ((standard config).evaluatorBelow context) (context.withSubject record.toValue)
          context := by
      refine refinesAt_evaluatorBelow (.refl _) fun subject e ↦ ?_
      refine (isStock_standard config).refines_evaluate ?_ ?_ e
      · rfl
      · simp only [Context.depth_withSubject]
        omega
    have hrefines := (refines_objectMatches hbelow criteria record.toValue).bind
      fun met ↦ Refines.refl (Except.ok (Value.bool met))
    rw [hresult] at hrefines
    exact hrefines.eq_of_ne hne

theorem evaluate_objectMatches_urlParse_small :
    let context := Context.root .null
    context.depth + 1 < standardMaxDepth ∧
      (standard {}).evaluate context (.array [.string UrlOperation.matchesName,
        .object [("hostname", .string "a")], .string "http://a/"]) = .ok (.bool true) ∧
      (standard {}).evaluate context (.array [.string objectMatchesName,
        .object [("hostname", .string "a")],
        .array [.string UrlOperation.parseName, .string "http://a/"]]) = .ok (.bool true) := by
  have hmatch : objectMatches [("hostname", .string "a")] smallRecord.toValue
      ((Context.root .null).withSubject smallRecord.toValue)
      ((standard {}).evaluatorBelow ((Context.root .null).withSubject smallRecord.toValue)) =
        .ok true := by
    rw [objectMatches_eq_ok_true_iff, List.forall_mem_singleton, valueAt_hostname_smallRecord,
      fulfils_string_iff]
    decide
  have hresult : (standard {}).evaluate (.root .null) (.array [.string UrlOperation.matchesName,
      .object [("hostname", .string "a")], .string "http://a/"]) = .ok (.bool true) := by
    rw [evaluate_urlMatches (operation?_standard {} _) (by decide),
      urlMatches_eq (operation?_standard {} _) (by decide) (by simp [evaluatorBelow]),
      parse_smallRecord, mapError_ok, ok_bind, hmatch]
    rfl
  exact ⟨by decide, hresult, evaluate_objectMatches_urlParse_eq (by decide) hresult (by simp)⟩

end Engine

end UrlCalculus
