import UrlCalculus.Proofs.Expr.Registry
import UrlCalculus.Proofs.Outcome

/-!
# What operations fail with

Most operations of this library only look at what they are given. If they fail, that is because an
argument is not of its type, fields name no host, or a text is no URL. Four operations evaluate
expressions besides: the two connectives and the two operations that match. They fail with what
these evaluations fail with.

So the failure at the depth limit is never an answer of the other operations. It is the engine that
refuses a call, and the refusal comes up from an argument or from something that one of the four has
asked for.
-/

namespace UrlCalculus

/-- An error that lies in what an operation is given. -/
inductive Error.OfInput : Error → Prop where
  | argument (error : ArgumentError) : OfInput (.argument error)
  | missingHost : OfInput .missingHost
  | url (error : UrlError) : OfInput (.url error)

/-! ## What is done with arguments -/

theorem failsWithin_argument {α : Type} (decode : Decoder α) (operation parameter : String)
    (v : Option Value) : FailsWithin Error.OfInput (decode.argument operation parameter v) :=
  failsWithin_mapError (fun _ ↦ .argument _) _

theorem failsWithin_mapError_url {α : Type} (r : Except UrlError α) :
    FailsWithin Error.OfInput (r.mapError .url) :=
  failsWithin_mapError .url r

theorem failsWithin_update (f : FieldSet) (base : String) :
    FailsWithin Error.OfInput (f.update base) := by
  rw [FieldSet.update]
  split
  · exact failsWithin_error .missingHost
  · split
    · exact failsWithin_error (.url _)
    · exact failsWithin_ok _

theorem failsWithin_href (source : Source) (base : Option String) (defaultBase : String) :
    FailsWithin Error.OfInput (source.href base defaultBase) := by
  cases source with
  | raw text => exact failsWithin_mapError_url _
  | fields f => exact failsWithin_update f defaultBase

/-- The check of arguments fails with type errors only. -/
theorem Operation.failsWithin_checkArguments (name : String) (ps : List Parameter)
    (arguments : Arguments) :
    FailsWithin (fun e ↦ ∃ a, e = .argument a) (checkArguments name ps arguments) := by
  induction ps generalizing arguments with
  | nil => exact failsWithin_ok _
  | cons p ps ih =>
    cases arguments with
    | nil => exact failsWithin_ok _
    | cons a rest =>
      rw [checkArguments]
      exact (failsWithin_mapError (fun e ↦ ⟨e, rfl⟩) _).bind fun _ ↦ ih rest

/-! ## Handlers -/

section Handlers

variable {evaluator : Evaluator} {context : Context} {arguments : Arguments}

theorem failsWithin_value (arguments : Arguments) (context : Context) (evaluator : Evaluator) :
    FailsWithin Error.OfInput (Builtin.value arguments context evaluator) := by
  rw [Builtin.value]
  split
  · exact failsWithin_ok _
  · exact failsWithin_ok _

theorem failsWithin_stringTest (test : Text → Text → Bool) (arguments : Arguments)
    (context : Context) (evaluator : Evaluator) :
    FailsWithin Error.OfInput (Builtin.stringTest test arguments context evaluator) := by
  rw [Builtin.stringTest]
  split
  · exact failsWithin_ok _
  · exact failsWithin_ok _

namespace Engine

/-- The operations that ask their evaluator for the values of expressions. -/
def askingNames : List String := ["$and", "$or", objectMatchesName, UrlOperation.matchesName]

/-- **An operation that evaluates nothing fails because of what it is given.** -/
theorem failsWithin_handler {op : Operation} (hop : op ∈ stockOperations)
    (hname : op.name ∉ askingNames) :
    FailsWithin Error.OfInput (op.handler arguments context evaluator) := by
  simp only [stockOperations, Builtin.operations, UrlOperation.operations, List.cons_append,
    List.nil_append, List.mem_cons, List.not_mem_nil, or_false] at hop
  rcases hop with rfl | rfl | rfl | rfl | rfl | rfl | rfl | rfl | rfl | rfl | rfl | rfl | rfl |
    rfl | rfl | rfl | rfl
  · exact failsWithin_value _ context evaluator
  · exact failsWithin_ok _
  · exact failsWithin_ok _
  · exact failsWithin_ok _
  · exact failsWithin_ok _
  · exact failsWithin_ok _
  · exact failsWithin_ok _
  · exact absurd (by decide) hname
  · exact absurd (by decide) hname
  · exact failsWithin_stringTest _ _ context evaluator
  · exact failsWithin_stringTest _ _ context evaluator
  · exact failsWithin_stringTest _ _ context evaluator
  · exact absurd (by decide) hname
  · exact (failsWithin_argument _ _ _ _).bind fun source ↦
      (failsWithin_href source _ _).bind fun _ ↦ failsWithin_ok _
  · exact (failsWithin_mapError_url _).bind fun _ ↦ failsWithin_ok _
  · exact absurd (by decide) hname
  · exact (failsWithin_argument _ _ _ _).bind fun f ↦
      (failsWithin_update f _).bind fun _ ↦ failsWithin_ok _

end Engine

end Handlers

end UrlCalculus
