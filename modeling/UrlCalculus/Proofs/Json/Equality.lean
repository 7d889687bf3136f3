import Mathlib.Data.List.Perm.Subperm
import UrlCalculus.Proofs.Json.DistinctKeys

/-!
# Equality of values

Objects are compared by look-up: there have to be as many entries in the one as in the other, and
every entry of the one has to be found in the other. As it is said, that goes in one direction only,
and with a key that occurs twice it depends on the direction. Under distinct keys the two objects
have the same keys by counting, so every entry of the other is found in the one as well, and equality
is symmetric.
-/

namespace UrlCalculus

theorem Binary64.same_comm (x y : Binary64) : x.same y = y.same x := by
  rw [same, same, Bool.and_comm, Bool.beq_comm, Bool.beq_comm (a := x.coefficient),
    Bool.beq_comm (a := x.shift)]

theorem Number.same_comm (m n : Number) : m.same n = n.same m := by
  cases m <;> cases n <;> first | rfl | exact Bool.beq_comm | exact Binary64.same_comm _ _

namespace Value

/-! ## Induction over what stands in a value -/

/-- **Induction on values.** What holds of an array when it holds of its items, and of an object when
it holds under its keys, holds of all values if it holds of the simple ones. -/
@[elab_as_elim]
theorem parts_induction {motive : Value → Prop} (null : motive .null)
    (bool : ∀ b, motive (.bool b)) (number : ∀ n, motive (.number n))
    (string : ∀ s, motive (.string s))
    (array : ∀ items : List Value, (∀ item ∈ items, motive item) → motive (.array items))
    (object : ∀ entries : Entries, (∀ entry ∈ entries, motive entry.2) → motive (.object entries))
    (v : Value) : motive v :=
  match v with
  | .null => null
  | .bool b => bool b
  | .number n => number n
  | .string s => string s
  | .array items => array items fun item _ ↦
    parts_induction null bool number string array object item
  | .object entries => object entries fun entry _ ↦
    parts_induction null bool number string array object entry.2
termination_by sizeOf v
decreasing_by
  · rename_i hitem
    have hlt := List.sizeOf_lt_of_mem hitem
    simp only [Value.array.sizeOf_spec]
    omega
  · rename_i hentry
    have hlt := List.sizeOf_lt_of_mem hentry
    obtain ⟨key, value⟩ := entry
    simp only [Value.object.sizeOf_spec, Prod.mk.sizeOf_spec] at hlt ⊢
    omega

/-! ## Arrays and objects -/

theorem same_array_iff {xs ys : List Value} :
    (array xs).same (array ys) = true ↔
      xs.length = ys.length ∧ ∀ i (hx : i < xs.length) (hy : i < ys.length),
        (xs.get ⟨i, hx⟩).same (ys.get ⟨i, hy⟩) = true := by
  have hitems : sameItems xs ys = true ↔ List.Forall₂ (fun x y ↦ x.same y = true) xs ys := by
    induction xs generalizing ys with
    | nil => cases ys <;> simp [sameItems]
    | cons x xs ih =>
      cases ys with
      | nil => simp [sameItems]
      | cons y ys => rw [sameItems, Bool.and_eq_true, ih, List.forall₂_cons]
  exact hitems.trans List.forall₂_iff_get

theorem same_object_iff {xs ys : Entries} :
    (object xs).same (object ys) = true ↔
      xs.length = ys.length ∧
        ∀ entry ∈ xs, ∃ y, Entries.get? ys entry.1 = some y ∧ entry.2.same y = true := by
  have hentries : sameEntries xs ys = true ↔
      ∀ entry ∈ xs, ∃ y, Entries.get? ys entry.1 = some y ∧ entry.2.same y = true := by
    induction xs with
    | nil => simp [sameEntries]
    | cons entry rest ih =>
      obtain ⟨key, x⟩ := entry
      rw [sameEntries, Bool.and_eq_true, ih, List.forall_mem_cons]
      refine and_congr_left fun _ ↦ ?_
      cases Entries.get? ys key <;> simp
  rw [same, Bool.and_eq_true, beq_iff_eq, hentries]

/-! ## Symmetry -/

variable {a b : Value}

/-- In objects of one size, keys that are all found on one side are all found on the other. -/
theorem keys_perm_of_same {xs ys : Entries} (hnodup : (xs.map Prod.fst).Nodup)
    (h : (object xs).same (object ys) = true) : (xs.map Prod.fst).Perm (ys.map Prod.fst) := by
  obtain ⟨hlength, hfound⟩ := same_object_iff.mp h
  have hsubset : xs.map Prod.fst ⊆ ys.map Prod.fst := by
    intro key hkey
    obtain ⟨entry, hentry, rfl⟩ := List.mem_map.mp hkey
    obtain ⟨y, hy, -⟩ := hfound entry hentry
    by_contra hnot
    rw [Entries.get?_eq_none hnot] at hy
    cases hy
  refine (hnodup.subperm hsubset).perm_of_length_le ?_
  rw [List.length_map, List.length_map]
  exact Nat.le_of_eq hlength.symm

theorem same_symm (ha : a.distinctKeys = true) (hb : b.distinctKeys = true)
    (h : a.same b = true) : b.same a = true := by
  induction a using parts_induction generalizing b with
  | null =>
    cases b with
    | null => rfl
    | _ => cases h
  | bool x =>
    cases b with
    | bool y => rwa [same, Bool.beq_comm, ← same]
    | _ => cases h
  | number m =>
    cases b with
    | number n => rwa [same, Number.same_comm, ← same]
    | _ => cases h
  | string s =>
    cases b with
    | string t => rwa [same, Bool.beq_comm, ← same]
    | _ => cases h
  | array xs ih =>
    cases b with
    | array ys =>
      obtain ⟨hlength, hitems⟩ := same_array_iff.mp h
      refine same_array_iff.mpr ⟨hlength.symm, fun i hy hx ↦ ?_⟩
      have hxs := distinctKeys_array_iff.mp ha _ (List.get_mem xs ⟨i, hx⟩)
      have hys := distinctKeys_array_iff.mp hb _ (List.get_mem ys ⟨i, hy⟩)
      exact ih _ (List.get_mem xs ⟨i, hx⟩) hxs hys (hitems i hx hy)
    | _ => cases h
  | object xs ih =>
    cases b with
    | object ys =>
      obtain ⟨hxs, hxvalues⟩ := distinctKeys_object_iff.mp ha
      obtain ⟨hys, hyvalues⟩ := distinctKeys_object_iff.mp hb
      obtain ⟨hlength, hfound⟩ := same_object_iff.mp h
      refine same_object_iff.mpr ⟨hlength.symm, fun entry hentry ↦ ?_⟩
      have hkey : entry.1 ∈ xs.map Prod.fst :=
        (keys_perm_of_same hxs h).mem_iff.mpr (List.mem_map_of_mem hentry)
      obtain ⟨found, hmem, hfst⟩ := List.mem_map.mp hkey
      obtain ⟨y, hy, hsame⟩ := hfound found hmem
      have hvalue : y = entry.2 := by
        rw [hfst, Entries.get?_of_mem hys hentry] at hy
        exact (Option.some.inj hy).symm
      subst hvalue
      refine ⟨found.2, ?_, ih found hmem (hxvalues found hmem) (hyvalues entry hentry) hsame⟩
      rw [← hfst]
      exact Entries.get?_of_mem hxs hmem
    | _ => cases h

/-- **Equality of values with distinct keys is symmetric.** -/
theorem same_comm (ha : a.distinctKeys = true) (hb : b.distinctKeys = true) :
    a.same b = b.same a :=
  Bool.eq_iff_iff.mpr ⟨same_symm ha hb, same_symm hb ha⟩

/-- One key twice on one side, and another key that is missed on the other. -/
example :
    let twice := Value.object [("a", .null), ("a", .null)]
    let other := Value.object [("a", .null), ("b", .null)]
    twice.same other = true ∧ other.same twice = false := by decide

end Value

end UrlCalculus
