import UrlCalculus.Proofs.Expr.Failure
import UrlCalculus.Proofs.Expr.Provenance

/-!
# How much room an expression takes

The height of an expression counts the calls that stand in one another as arguments. Each of them
takes a level of room, so an expression with less room than its height fails. Quotations count for
one level whatever they quote, since they evaluate nothing.

As much room as that is enough where operations evaluate nothing but their arguments. The connectives
also evaluate the items of a list, which may have been computed, and the operations that match
evaluate expectations inside of criteria. Expressions in which evaluation gets to none of these four
are eager. How much room the others take cannot be told from their looks.

The two bounds meet, so for eager expressions the limit is exact. Which error too little room ends in
is left open: it need not be the one about the depth, since an argument in front may fail with another
one.
-/

namespace UrlCalculus

namespace Engine

/-! ## Height -/

mutual

/-- The number of calls that stand in one another as arguments; a quotation is one call. -/
def height (engine : Engine) : Value → Nat
  | .array (.string name :: arguments) =>
    if engine.contains name then
      if name = literalName then 1 else 1 + greatestHeight engine arguments
    else 0
  | _ => 0

/-- The greatest height among some expressions, `0` if there are none. -/
def greatestHeight (engine : Engine) : List Value → Nat
  | [] => 0
  | e :: rest => max (height engine e) (greatestHeight engine rest)

end

section Height

variable {engine : Engine} {e : Value} {es written : List Value} {name : String}

theorem height_of_not_call (h : engine.call? e = none) : engine.height e = 0 := by
  unfold height
  split
  · rename_i name arguments
    have hcontains : engine.contains name = false := by
      simpa [call?, contains] using h
    rw [hcontains]
    rfl
  · rfl

theorem height_literal (h : engine.contains literalName = true) :
    engine.height (.array (.string literalName :: written)) = 1 := by
  rw [height, if_pos h, if_pos rfl]

theorem height_call (h : engine.contains name = true) (hname : name ≠ literalName) :
    engine.height (.array (.string name :: written)) = 1 + engine.greatestHeight written := by
  rw [height, if_pos h, if_neg hname]

theorem height_le_greatestHeight (h : e ∈ es) : engine.height e ≤ engine.greatestHeight es := by
  induction es with
  | nil => cases h
  | cons head rest ih =>
    rw [greatestHeight]
    rcases List.mem_cons.mp h with rfl | h
    · exact Nat.le_max_left _ _
    · exact Nat.le_trans (ih h) (Nat.le_max_right _ _)

/-- One of the expressions has the greatest height, if that is any. -/
theorem exists_height_eq (h : 0 < engine.greatestHeight es) :
    ∃ e ∈ es, engine.height e = engine.greatestHeight es := by
  induction es with
  | nil => cases h
  | cons head rest ih =>
    rw [greatestHeight] at h ⊢
    by_cases hle : engine.greatestHeight rest ≤ engine.height head
    · exact ⟨head, List.mem_cons_self, (Nat.max_eq_left hle).symm⟩
    · have hrest : max (engine.height head) (engine.greatestHeight rest) =
          engine.greatestHeight rest := Nat.max_eq_right (Nat.le_of_not_le hle)
      rw [hrest] at h ⊢
      obtain ⟨e, he, hheight⟩ := ih h
      exact ⟨e, List.mem_cons_of_mem _ he, hheight⟩

end Height

/-! ## Eager expressions -/

/-- Evaluation gets from the second expression to the first one through arguments that are
evaluated. -/
inductive Reached (engine : Engine) (inner : Value) : Value → Prop where
  | self : Reached engine inner inner
  | argument {name : String} {written : List Value} {e : Value} :
      engine.contains name = true → name ≠ literalName → e ∈ written → Reached engine inner e →
      Reached engine inner (.array (.string name :: written))

/-- No call that evaluation gets to through arguments evaluates anything but its arguments. -/
def Eager (engine : Engine) (e : Value) : Prop :=
  ∀ name written, engine.contains name = true →
    engine.Reached (.array (.string name :: written)) e → name ∉ askingNames

section Eager

variable {engine : Engine} {name : String} {written : List Value} {e : Value}

/-- What is no call evaluates nothing. -/
theorem eager_of_not_call (h : engine.call? e = none) : engine.Eager e := by
  have hcall {name : String} (hcontains : engine.contains name = true) (written : List Value) :
      e ≠ .array (.string name :: written) := by
    rintro rfl
    simp only [contains, Option.isSome_iff_exists] at hcontains
    obtain ⟨op, hop⟩ := hcontains
    simp [call?, hop] at h
  intro name written hcontains hreached
  cases hreached with
  | self => exact absurd rfl (hcall hcontains written)
  | argument hcontains' => exact absurd rfl (hcall hcontains' _)

theorem eager_literal (written : List Value) :
    engine.Eager (.array (.string literalName :: written)) := by
  intro name written' _ hreached
  cases hreached with
  | self => decide
  | argument _ hname => exact absurd rfl hname

theorem eager_call_iff (hcontains : engine.contains name = true) (hname : name ≠ literalName) :
    engine.Eager (.array (.string name :: written)) ↔
      name ∉ askingNames ∧ ∀ e ∈ written, engine.Eager e := by
  constructor
  · intro h
    refine ⟨h name written hcontains .self, fun e he name' written' hcontains' hreached ↦ ?_⟩
    exact h name' written' hcontains' (.argument hcontains hname he hreached)
  · rintro ⟨hasks, hwritten⟩ name' written' hcontains' hreached
    cases hreached with
    | self => exact hasks
    | argument _ _ he hreached => exact hwritten _ he name' written' hcontains' hreached

end Eager

/-! ## Room -/

/-- Quotation is the one operation that takes its arguments as they are written. -/
theorem evaluatesArguments_iff :
    ∀ op ∈ stockOperations, op.evaluatesArguments = true ↔ op.name ≠ literalName := by
  decide

section Room

variable {engine : Engine} {context : Context} {op : Operation} {e : Value} {written : List Value}

theorem contains_of_call? (h : engine.call? e = some (op, written)) :
    engine.contains op.name = true := by
  rw [contains, (eq_of_call? h).1]
  rfl

/-- A call is higher than nothing. -/
theorem height_pos_of_call? (h : engine.call? e = some (op, written)) : 0 < engine.height e := by
  have hcontains := contains_of_call? h
  obtain ⟨-, rfl⟩ := eq_of_call? h
  by_cases hliteral : op.name = literalName
  · rw [hliteral] at hcontains ⊢
    rw [height_literal hcontains]
    exact Nat.one_pos
  · rw [height_call hcontains hliteral]
    omega

/-- A call has no arguments where one of them fails. -/
theorem callArguments_of_error (heager : op.evaluatesArguments = true) (he : e ∈ written)
    {error : Error} (herror : engine.evaluate context.descend e = .error error) :
    ∃ error, engine.callArguments op context written = .error error := by
  induction written with
  | nil => cases he
  | cons a rest ih =>
    rw [callArguments_cons heager]
    cases ha : engine.evaluate context.descend a with
    | error error => exact ⟨error, rfl⟩
    | ok v =>
      have hrest : e ∈ rest := by
        rcases List.mem_cons.mp he with rfl | hrest
        · rw [ha] at herror
          cases herror
        · exact hrest
      obtain ⟨error, hfailed⟩ := ih hrest
      exact ⟨error, by rw [hfailed]; rfl⟩

/-- **Too little room is an error.** -/
theorem IsStock.exists_error_of_lt_height (h : engine.IsStock) (hpos : 0 < engine.height e)
    (hroom : engine.config.maxDepth < context.depth + engine.height e) :
    ∃ error, engine.evaluate context e = .error error := by
  induction context, e using evaluate_induction engine with
  | notCall context e hcall =>
    rw [height_of_not_call hcall] at hpos
    cases hpos
  | limit context e hcall hdepth => exact ⟨_, evaluate_of_call_of_le hcall hdepth⟩
  | call context e op written hcall hdepth ih =>
    have hcontains := contains_of_call? hcall
    obtain ⟨hop, rfl⟩ := eq_of_call? hcall
    -- there is room for the call itself, so an argument lacks it
    have hliteral : op.name ≠ literalName := by
      intro hname
      rw [hname, height_literal (hname ▸ hcontains)] at hroom
      omega
    rw [height_call hcontains hliteral] at hroom
    have hgreatest : 0 < engine.greatestHeight written := by omega
    obtain ⟨a, ha, hheight⟩ := exists_height_eq hgreatest
    have hlacks : engine.config.maxDepth < context.descend.depth + engine.height a := by
      rw [hheight, Context.depth_descend]
      omega
    obtain ⟨error, herror⟩ := ih _ a (Nat.lt_succ_self _) (hheight ▸ hgreatest) hlacks
    have heager := (evaluatesArguments_iff op (h.mem_of_operation? hop)).mpr hliteral
    obtain ⟨error, hfailed⟩ := callArguments_of_error heager ha herror
    refine ⟨error, ?_⟩
    rw [evaluate_of_call hcall hdepth, hfailed]
    rfl

/-- **Enough room is no error about the depth**, for eager expressions. -/
theorem IsStock.failsWithin_of_height_le (h : engine.IsStock) (heager : engine.Eager e)
    (hroom : context.depth + engine.height e ≤ engine.config.maxDepth) :
    FailsWithin (fun error ↦ ∀ limit, error ≠ .depthExceeded limit)
      (engine.evaluate context e) := by
  induction context, e using evaluate_induction engine with
  | notCall context e hcall =>
    rw [evaluate_of_not_call hcall]
    exact failsWithin_ok e
  | limit context e hcall hdepth =>
    obtain ⟨op, written, hcall⟩ := isExpression_eq_true_iff.mp hcall
    have hpos := height_pos_of_call? hcall
    omega
  | call context e op written hcall hdepth ih =>
    have hcontains := contains_of_call? hcall
    obtain ⟨hop, rfl⟩ := eq_of_call? hcall
    have hstock := h.mem_of_operation? hop
    have hasks : op.name ∉ askingNames := heager _ _ hcontains .self
    rw [evaluate_of_call hcall hdepth]
    refine FailsWithin.bind ?_ fun arguments ↦ ?_
    · -- the arguments have the room that the call leaves
      rw [callArguments]
      split
      · rename_i hevaluates
        have hliteral := (evaluatesArguments_iff op hstock).mp hevaluates
        have hwritten := ((eager_call_iff hcontains hliteral).mp heager).2
        rw [height_call hcontains hliteral] at hroom
        refine failsWithin_mapM fun a ha ↦ ?_
        have hle : engine.height a ≤ engine.greatestHeight written := height_le_greatestHeight ha
        have hroom' : context.descend.depth + engine.height a ≤ engine.config.maxDepth := by
          rw [Context.depth_descend]
          omega
        exact (ih _ a (Nat.lt_succ_self _) (hwritten a ha) hroom').bind fun _ ↦ failsWithin_ok _
      · exact failsWithin_ok _
    · -- neither the check of the arguments nor the handler knows of the limit
      rw [Operation.invoke]
      refine FailsWithin.bind ?_ fun _ ↦ ?_
      · refine (Operation.failsWithin_checkArguments _ _ _).mono ?_
        rintro _ ⟨a, rfl⟩ limit ⟨⟩
      · refine (failsWithin_handler hstock hasks).mono ?_
        rintro _ (_ | _ | _) limit ⟨⟩

end Room

/-- **The depth limit is exact on eager expressions.** In an engine with operations of this library,
an eager expression with as much room as its height does not run out of depth, and any expression
with less room, if it is a call at all, ends in an error. -/
theorem IsStock.evaluate_of_height {engine : Engine} (h : engine.IsStock) (subject : Value)
    (depth : Nat) (e : Value) :
    (engine.Eager e → depth + engine.height e ≤ engine.config.maxDepth →
        ∀ limit, engine.evaluate ⟨subject, depth⟩ e ≠ .error (.depthExceeded limit)) ∧
      (0 < engine.height e → engine.config.maxDepth < depth + engine.height e →
        ∃ error, engine.evaluate ⟨subject, depth⟩ e = .error error) := by
  constructor
  · intro heager hroom limit hlimit
    exact h.failsWithin_of_height_le heager hroom _ hlimit limit rfl
  · intro hpos hroom
    exact h.exists_error_of_lt_height hpos hroom

theorem contains_standard (config : Config) (name : String) :
    (standard config).contains name = (stock? name).isSome := by
  rw [contains, operation?_standard]

/-- Two levels of room: a quotation of something deep takes one of them, and where three calls stand
in one another, the type error in front of them comes first. -/
theorem evaluate_of_height_two_levels :
    let engine := standard { maxDepth := 2 }
    let negations := Value.array [.string "$not", .array [.string "$not", .null]]
    let shallow := Value.array [.string "$eq", .array [.string literalName, negations], .null]
    let deep := Value.array
      [.string "$in", .array [.string "$stringIncludes", .null, .string "a"], negations]
    engine.IsStock ∧ engine.Eager shallow ∧
      0 + engine.height shallow ≤ engine.config.maxDepth ∧
      (∀ limit, engine.evaluate ⟨.null, 0⟩ shallow ≠ .error (.depthExceeded limit)) ∧
      0 < engine.height deep ∧ engine.config.maxDepth < 0 + engine.height deep ∧
      ∃ error, engine.evaluate ⟨.null, 0⟩ deep = .error error := by
  intro engine negations shallow deep
  have hstock : engine.IsStock := isStock_standard _
  have heager : engine.Eager shallow := by
    refine (eager_call_iff (contains_standard _ _) (by decide)).mpr ⟨by decide, ?_⟩
    simpa using ⟨eager_literal _, eager_of_not_call rfl⟩
  have hshallow : 0 + engine.height shallow ≤ engine.config.maxDepth := by decide
  have hpos : 0 < engine.height deep := by decide
  have hdeep : engine.config.maxDepth < 0 + engine.height deep := by decide
  exact ⟨hstock, heager, hshallow, (hstock.evaluate_of_height .null 0 shallow).1 heager hshallow,
    hpos, hdeep, (hstock.evaluate_of_height .null 0 deep).2 hpos hdeep⟩

end Engine

end UrlCalculus
