/-!
# Outcomes

A computation that can fail ends in a value or in an error. These are the equations by which a
sequence of such computations is taken apart: forwards when the first one is known, backwards when
the whole is known to succeed.

Which errors a computation can end in is said by `FailsWithin`, and goes from the parts of a sequence
to the whole.
-/

namespace UrlCalculus

variable {ε ε' α β : Type}

@[simp]
theorem ok_bind (a : α) (f : α → Except ε β) : (Except.ok a >>= f) = f a := rfl

@[simp]
theorem error_bind (e : ε) (f : α → Except ε β) : (Except.error e >>= f) = .error e := rfl

@[simp]
theorem pure_eq_ok (a : α) : (pure a : Except ε α) = .ok a := rfl

@[simp]
theorem mapError_ok (f : ε → ε') (a : α) : (Except.ok a : Except ε α).mapError f = .ok a := rfl

@[simp]
theorem mapError_error (f : ε → ε') (e : ε) :
    (Except.error e : Except ε α).mapError f = .error (f e) := rfl

theorem mapError_bind (r : Except ε α) (f : α → Except ε β) (g : ε → ε') :
    (r >>= f).mapError g = r.mapError g >>= fun a ↦ (f a).mapError g := by
  cases r <;> rfl

theorem mapError_eq_ok_iff {r : Except ε α} {f : ε → ε'} {a : α} :
    r.mapError f = .ok a ↔ r = .ok a := by
  cases r with
  | error e => simp
  | ok a => simp

theorem bind_eq_ok_iff {r : Except ε α} {f : α → Except ε β} {b : β} :
    (r >>= f) = .ok b ↔ ∃ a, r = .ok a ∧ f a = .ok b := by
  cases r with
  | error e => simp
  | ok a => simp

/-- Whether a sequence succeeds is decided by its first part when the second one always does. -/
theorem exists_bind_eq_ok_iff {r : Except ε α} {f : α → Except ε β}
    (hf : ∀ a, ∃ b, f a = .ok b) : (∃ b, (r >>= f) = .ok b) ↔ ∃ a, r = .ok a := by
  simp only [bind_eq_ok_iff]
  constructor
  · rintro ⟨_, a, ha, -⟩
    exact ⟨a, ha⟩
  · rintro ⟨a, ha⟩
    obtain ⟨b, hb⟩ := hf a
    exact ⟨b, a, ha, hb⟩

/-- A check in front of a computation. -/
theorem check_bind_eq_ok_iff {r : Except ε Unit} {f : Unit → Except ε β} {b : β} :
    (r >>= f) = .ok b ↔ r = .ok () ∧ f () = .ok b := by
  cases r with
  | error e => simp
  | ok _ => simp

/-- Checks one after the other. -/
theorem forM_eq_ok_iff {f : α → Except ε PUnit} {as : List α} :
    as.forM f = .ok () ↔ ∀ a ∈ as, f a = .ok () := by
  induction as with
  | nil => simp [List.forM]
  | cons a rest ih =>
    change (f a >>= fun _ ↦ rest.forM f) = .ok () ↔ _
    rw [check_bind_eq_ok_iff, ih, List.forall_mem_cons]

/-! ## Which errors there can be -/

/-- The outcome is a value, or an error with a property. -/
def FailsWithin (p : ε → Prop) (r : Except ε α) : Prop :=
  ∀ e, r = .error e → p e

section FailsWithin

variable {p q : ε → Prop} {r : Except ε α}

theorem failsWithin_ok (a : α) : FailsWithin p (.ok a) := by
  rintro e ⟨⟩

theorem failsWithin_error {e : ε} (h : p e) : FailsWithin p (.error e : Except ε α) := by
  rintro _ ⟨⟩
  exact h

theorem FailsWithin.mono (h : FailsWithin p r) (hpq : ∀ e, p e → q e) : FailsWithin q r := by
  intro e he
  exact hpq e (h e he)

theorem FailsWithin.bind {f : α → Except ε β} (h : FailsWithin p r)
    (hf : ∀ a, FailsWithin p (f a)) : FailsWithin p (r >>= f) := by
  cases r with
  | ok a => exact hf a
  | error e => exact failsWithin_error (h e rfl)

theorem failsWithin_mapM {f : α → Except ε β} {as : List α}
    (hf : ∀ a ∈ as, FailsWithin p (f a)) : FailsWithin p (as.mapM f) := by
  induction as with
  | nil => exact failsWithin_ok _
  | cons a rest ih =>
    obtain ⟨ha, hrest⟩ := List.forall_mem_cons.mp hf
    rw [List.mapM_cons]
    exact ha.bind fun _ ↦ (ih hrest).bind fun _ ↦ failsWithin_ok _

theorem failsWithin_mapError {p : ε' → Prop} {f : ε → ε'} (hf : ∀ e, p (f e)) (r : Except ε α) :
    FailsWithin p (r.mapError f) := by
  cases r with
  | ok a => exact failsWithin_ok a
  | error e => exact failsWithin_error (hf e)

end FailsWithin

end UrlCalculus
