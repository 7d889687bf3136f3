import UrlCalculus.Proofs.Expr.Matching
import UrlCalculus.Proofs.FieldSet.Decoding

/-!
# Building and changing

A URL is built from fields by putting them into the default base. So building one is changing that
base, and the two operations give the same URL for one object: they ask the same of it, although one
of them would take a text as well, and they refuse it at the same place for the same reason, each in
its own name. A base that is given along with fields has no influence.
-/

namespace UrlCalculus

/-- The same error, as an operation with another name reports it. -/
def Error.inOperation (name : String) : Error → Error
  | .argument a => .argument { a with operation := name }
  | .missingHost => .missingHost
  | .url e => .url e
  | .invalidExpression reason => .invalidExpression reason
  | .depthExceeded limit => .depthExceeded limit

namespace UrlOperation

/-- Change a base by the fields that an object shows, if it looks like a field set. -/
def changeBy (operation : String) (entries : Entries) (base : String) : Except Error Value := do
  (fieldSetSpec.checkArgument operation "input" (some (.object entries))).mapError .argument
  return .string (← (FieldSet.ofEntries entries).update base)

section

variable {entries : Entries} {context : Context} {evaluator : Evaluator} {arguments : Arguments}

theorem checkArgument_inOperation (s : Spec) (operation operation' parameter : String)
    (value : Option Value) :
    (s.checkArgument operation' parameter value).mapError Error.argument =
      ((s.checkArgument operation parameter value).mapError Error.argument).mapError
        (Error.inOperation operation') := by
  rw [Spec.checkArgument, Spec.checkArgument]
  cases s.check value <;> rfl

theorem update_inOperation (f : FieldSet) (base operation : String) :
    (f.update base).mapError (Error.inOperation operation) = f.update base := by
  rw [FieldSet.update]
  split
  · rfl
  · split <;> rfl

/-- The name of the operation has no influence but on the errors that carry it. -/
theorem changeBy_inOperation (operation operation' : String) (entries : Entries) (base : String) :
    changeBy operation' entries base =
      (changeBy operation entries base).mapError (Error.inOperation operation') := by
  rw [changeBy, changeBy, mapError_bind, ← checkArgument_inOperation]
  refine bind_congr fun _ ↦ ?_
  rw [mapError_bind, update_inOperation]
  rfl

theorem checkArguments_pair {operation : String} {p p' : Parameter} {a a' : Option Value}
    (h : p'.spec.check a' = .ok ()) :
    Operation.checkArguments operation [p, p'] [a, a'] =
      (p.spec.checkArgument operation p.name a).mapError .argument := by
  rw [Operation.checkArguments, Engine.checkArguments_cons h, Engine.checkArguments_nil]
  cases (p.spec.checkArgument operation p.name a).mapError Error.argument <;> rfl

theorem check_optional_string (base : Option String) :
    Spec.string.optional.check (base.map Value.string) = .ok () := by
  rw [Spec.check_optional_eq_ok_iff, Spec.check_string_eq_ok_iff]
  cases base with
  | none => exact .inr rfl
  | some b => exact .inl ⟨b, rfl⟩

/-- An operation that asks of its arguments that the first one is a field set, and then changes a
base by it. -/
theorem invoke_eq_changeBy {op : Operation} {base : String}
    (hchecked : Operation.checkArguments op.name op.parameters (op.prepare arguments context) =
      (fieldSetSpec.checkArgument op.name "input" (some (.object entries))).mapError .argument)
    (hhandler : fieldSetSpec.check (some (.object entries)) = .ok () →
      op.handler (op.prepare arguments context) context evaluator =
        (do return .string (← (FieldSet.ofEntries entries).update base))) :
    op.invoke arguments context evaluator = changeBy op.name entries base := by
  rw [Operation.invoke, hchecked, changeBy]
  cases hcheck : fieldSetSpec.check (some (.object entries)) with
  | error m =>
    rw [Spec.checkArgument, hcheck]
    rfl
  | ok _ =>
    rw [Spec.checkArgument, hcheck, mapError_ok, mapError_ok, ok_bind, ok_bind, hhandler hcheck]

/-- Building from an object changes the default base, whatever base is given along with it. -/
theorem invoke_urlOperation (hdistinct : (Value.object entries).distinctKeys = true)
    (base : Option String)
    (hprepared : Engine.urlOperation.prepare arguments context =
      [some (.object entries), base.map .string]) :
    Engine.urlOperation.invoke arguments context evaluator =
      changeBy urlName entries evaluator.defaultBase := by
  refine invoke_eq_changeBy ?_ fun hcheck ↦ ?_
  · have hspec : Spec.checkArgument (.oneOf [.string, fieldSetSpec]) urlName "input"
        (some (.object entries)) =
          fieldSetSpec.checkArgument urlName "input" (some (.object entries)) := by
      rw [Spec.checkArgument, Spec.checkArgument, fieldSetSpec, Spec.check_oneOf_string_object]
    rw [hprepared]
    exact (checkArguments_pair (check_optional_string base)).trans
      (congrArg (Except.mapError Error.argument) hspec)
  · have hdecode : Source.decode.argument urlName "input" (some (.object entries)) =
        .ok (.fields (FieldSet.ofEntries entries)) := by
      rw [Decoder.argument, Option.getD_some, Source.decode.eq_2 _ (by simp),
        FieldSet.decode_object_of_check hdistinct hcheck, mapError_ok]
    rw [hprepared]
    exact congrArg (· >>= _) hdecode

/-- Changing a base by an object. -/
theorem invoke_urlSetOperation (hdistinct : (Value.object entries).distinctKeys = true)
    (base : String) :
    Engine.urlSetOperation.invoke [some (.object entries), some (.string base)] context evaluator =
      changeBy setName entries base := by
  refine invoke_eq_changeBy ?_ fun hcheck ↦ ?_
  · exact checkArguments_pair (Engine.check_string base)
  · have hdecode : FieldSet.decode.argument setName "input" (some (.object entries)) =
        .ok (FieldSet.ofEntries entries) := by
      rw [Decoder.argument, Option.getD_some, FieldSet.decode_object_of_check hdistinct hcheck,
        mapError_ok]
    exact congrArg (· >>= _) hdecode

end

end UrlOperation

namespace Engine

section Building

variable {engine : Engine} {context : Context} {entries : Entries}

theorem evaluate_urlName (hop : engine.operation? UrlOperation.urlName = some urlOperation)
    (hdistinct : (Value.object entries).distinctKeys = true)
    (hdepth : context.depth < engine.config.maxDepth) :
    engine.evaluate context (.array [.string UrlOperation.urlName, .object entries]) =
      UrlOperation.changeBy UrlOperation.urlName entries engine.config.defaultBase := by
  rw [evaluate_of_written hop hdepth (by simp [call?])]
  exact UrlOperation.invoke_urlOperation hdistinct none rfl

theorem evaluate_urlName_base (hop : engine.operation? UrlOperation.urlName = some urlOperation)
    (hdistinct : (Value.object entries).distinctKeys = true) (base : String)
    (hdepth : context.depth < engine.config.maxDepth) :
    engine.evaluate context
        (.array [.string UrlOperation.urlName, .object entries, .string base]) =
      UrlOperation.changeBy UrlOperation.urlName entries engine.config.defaultBase := by
  rw [evaluate_of_written hop hdepth (by simp [call?])]
  exact UrlOperation.invoke_urlOperation hdistinct (some base) rfl

theorem evaluate_setName (hop : engine.operation? UrlOperation.setName = some urlSetOperation)
    (hdistinct : (Value.object entries).distinctKeys = true) (base : String)
    (hdepth : context.depth < engine.config.maxDepth) :
    engine.evaluate context
        (.array [.string UrlOperation.setName, .object entries, .string base]) =
      UrlOperation.changeBy UrlOperation.setName entries base := by
  rw [evaluate_of_written hop hdepth (by simp [call?])]
  exact UrlOperation.invoke_urlSetOperation hdistinct base

end Building

/-- **Building is changing the default base.** From one object the two operations make the same URL
or fail for the same reason, each in its own name, and a base given along with the object has no
influence. The default base need not be a URL. -/
theorem evaluate_setName_defaultBase (config : Config) (context : Context) {entries : Entries}
    (hdistinct : (Value.object entries).distinctKeys = true) (base : String) :
    let built := (standard config).evaluate context
      (.array [.string UrlOperation.urlName, .object entries])
    (standard config).evaluate context
        (.array [.string UrlOperation.urlName, .object entries, .string base]) = built ∧
      (standard config).evaluate context
          (.array [.string UrlOperation.setName, .object entries, .string config.defaultBase]) =
        built.mapError (Error.inOperation UrlOperation.setName) := by
  intro built
  have hurl := (operation?_standard config UrlOperation.urlName).trans stock?_urlName
  have hset := (operation?_standard config UrlOperation.setName).trans stock?_setName
  have hconfig := config_standard config
  by_cases hdepth : context.depth < config.maxDepth
  · rw [← hconfig] at hdepth
    have hbuilt : built = UrlOperation.changeBy UrlOperation.urlName entries config.defaultBase := by
      rw [← hconfig]
      exact evaluate_urlName hurl hdistinct hdepth
    rw [hbuilt, ← UrlOperation.changeBy_inOperation, evaluate_setName hset hdistinct _ hdepth,
      evaluate_urlName_base hurl hdistinct _ hdepth, hconfig]
    exact ⟨rfl, rfl⟩
  · -- all three calls are refused
    have hle : (standard config).config.maxDepth ≤ context.depth := by
      rw [hconfig]
      exact Nat.le_of_not_lt hdepth
    have hrefused {name : String} {op : Operation}
        (hop : (standard config).operation? name = some op) (written : List Value) :
        (standard config).evaluate context (.array (.string name :: written)) =
          .error (.depthExceeded (standard config).config.maxDepth) := by
      exact evaluate_of_call_of_le (isExpression_of_operation? hop written) hle
    have hbuilt : built = .error (.depthExceeded (standard config).config.maxDepth) :=
      hrefused hurl _
    rw [hbuilt, hrefused hurl, hrefused hset]
    exact ⟨rfl, rfl⟩

/-- Search parameters of the wrong kind, a default base that is no URL, and another one besides. -/
theorem evaluate_setName_defaultBase_numericParameter :
    let entries : Entries := [("host", .string "a"),
      ("searchParams", .object [("b", .number (.natural 1 (by decide)))])]
    let config : Config := { defaultBase := "no URL" }
    (Value.object entries).distinctKeys = true ∧
      (standard config).evaluate (.root .null)
          (.array [.string UrlOperation.setName, .object entries, .string "no URL"]) =
        ((standard config).evaluate (.root .null)
          (.array [.string UrlOperation.urlName, .object entries])).mapError
            (Error.inOperation UrlOperation.setName) := by
  intro entries config
  have hdistinct : (Value.object entries).distinctKeys = true := by decide
  exact ⟨hdistinct, (evaluate_setName_defaultBase config (.root .null) hdistinct "").2⟩

end Engine

end UrlCalculus
