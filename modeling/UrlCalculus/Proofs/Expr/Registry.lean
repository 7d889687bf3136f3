import UrlCalculus.Expr.Engine

/-!
# Registries of engines

What a registry holds is seen through `operation?`: registering an operation changes the answer for
its own name and for no other. An engine is stock when every registration put an operation of this
library into it, in whatever order and however often. The names of these operations are distinct,
so a stock engine knows a name by at most one of them; this is what an engine that lacks some of
them shares with the one that has them all.
-/

namespace UrlCalculus

namespace Engine

/-! ## Looking up what was registered -/

theorem find?_replaceOperation (op : Operation) (ops : List Operation) (name : String) :
    (replaceOperation op ops).find? (fun o ↦ o.name == name) =
      if op.name = name then some op else ops.find? fun o ↦ o.name == name := by
  induction ops with
  | nil => by_cases h : op.name = name <;> simp [replaceOperation, h]
  | cons o rest ih =>
    by_cases ho : o.name = op.name
    · by_cases h : op.name = name <;> simp [replaceOperation, ho, h]
    · by_cases h : op.name = name
      · subst h
        simp [replaceOperation, ho, ih]
      · rw [replaceOperation, if_neg (by simpa using ho), List.find?_cons, List.find?_cons, ih]
        simp [h]

theorem operation?_register (engine : Engine) (op : Operation) (name : String) :
    (engine.register op).operation? name =
      if op.name = name then some op else engine.operation? name :=
  find?_replaceOperation op engine.operations name

@[simp]
theorem operation?_empty (config : Config) (name : String) :
    (empty config).operation? name = none := rfl

/-! ## Stock engines -/

/-- All operations of this library. -/
def stockOperations : List Operation := Builtin.operations ++ UrlOperation.operations

/-- The operation of this library with a name. -/
def stock? (name : String) : Option Operation :=
  stockOperations.find? fun op ↦ op.name == name

/-- Engines that come from an empty one by registering operations of this library. -/
inductive IsStock : Engine → Prop
  | empty (config : Config) : IsStock (empty config)
  | register {engine : Engine} {op : Operation} :
      IsStock engine → op ∈ stockOperations → IsStock (engine.register op)

theorem nodup_names_stockOperations : (stockOperations.map Operation.name).Nodup := by
  decide

theorem find?_eq_some_of_nodup {ops : List Operation} {op : Operation}
    (hnodup : (ops.map Operation.name).Nodup) (h : op ∈ ops) :
    ops.find? (fun o ↦ o.name == op.name) = some op := by
  induction ops with
  | nil => cases h
  | cons o rest ih =>
    rw [List.map_cons, List.nodup_cons] at hnodup
    rcases List.mem_cons.1 h with rfl | h
    · simp
    · have hne : o.name ≠ op.name := by
        intro heq
        exact hnodup.1 (heq ▸ List.mem_map_of_mem h)
      rw [List.find?_cons_of_neg (by simpa using hne)]
      exact ih hnodup.2 h

theorem stock?_name {op : Operation} (h : op ∈ stockOperations) : stock? op.name = some op :=
  find?_eq_some_of_nodup nodup_names_stockOperations h

theorem mem_of_stock?_eq_some {name : String} {op : Operation} (h : stock? name = some op) :
    op ∈ stockOperations :=
  List.mem_of_find?_eq_some h

theorem IsStock.registerAll {engine : Engine} (h : engine.IsStock) {ops : List Operation}
    (hops : ∀ op ∈ ops, op ∈ stockOperations) : (engine.registerAll ops).IsStock := by
  induction ops generalizing engine with
  | nil => exact h
  | cons op rest ih =>
    refine ih (.register h (hops op List.mem_cons_self)) ?_
    intro o ho
    exact hops o (List.mem_cons_of_mem op ho)

theorem isStock_standard (config : Config) : (standard config).IsStock :=
  (IsStock.empty config).registerAll fun _ h ↦ h

/-- A stock engine knows a name as this library does, or not at all. -/
theorem IsStock.operation?_eq {engine : Engine} (h : engine.IsStock) (name : String) :
    engine.operation? name = none ∨ engine.operation? name = stock? name := by
  induction h with
  | empty config => exact .inl rfl
  | @register engine op _ hop ih =>
    rw [operation?_register]
    by_cases hname : op.name = name
    · rw [if_pos hname, ← hname]
      exact .inr (stock?_name hop).symm
    · rw [if_neg hname]
      exact ih

theorem IsStock.mem_of_operation? {engine : Engine} (h : engine.IsStock) {name : String}
    {op : Operation} (hop : engine.operation? name = some op) : op ∈ stockOperations := by
  rcases h.operation?_eq name with hnone | hstock
  · rw [hnone] at hop
    exact absurd hop (by simp)
  · exact mem_of_stock?_eq_some (hstock ▸ hop)

theorem config_registerAll (engine : Engine) (ops : List Operation) :
    (engine.registerAll ops).config = engine.config := by
  induction ops generalizing engine with
  | nil => rfl
  | cons op rest ih => exact ih (engine.register op)

/-- Registering operations with distinct names makes all of them known. -/
theorem operation?_registerAll {ops : List Operation} (hnodup : (ops.map Operation.name).Nodup)
    (engine : Engine) (name : String) :
    (engine.registerAll ops).operation? name =
      ((ops.find? fun op ↦ op.name == name).orElse fun _ ↦ engine.operation? name) := by
  induction ops generalizing engine with
  | nil => rfl
  | cons op rest ih =>
    rw [List.map_cons, List.nodup_cons] at hnodup
    rw [registerAll, List.foldl_cons, ← registerAll, ih hnodup.2, operation?_register]
    by_cases h : op.name = name
    · -- no later operation takes the place of this one
      have hnone : rest.find? (fun o ↦ o.name == name) = none := by
        rw [List.find?_eq_none]
        intro o ho heq
        refine hnodup.1 ?_
        rw [h, ← eq_of_beq heq]
        exact List.mem_map_of_mem ho
      simp [hnone, h]
    · simp [h]

theorem operation?_standard (config : Config) (name : String) :
    (standard config).operation? name = stock? name := by
  have hall := operation?_registerAll nodup_names_stockOperations (empty config) name
  rw [operation?_empty] at hall
  refine hall.trans ?_
  change (stock? name).orElse _ = stock? name
  cases stock? name <;> rfl

@[simp]
theorem config_standard (config : Config) : (standard config).config = config :=
  config_registerAll _ _

end Engine

end UrlCalculus
