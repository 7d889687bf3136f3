import UrlCalculus.Proofs.Outcome
import UrlCalculus.Spec

/-!
# Which values meet a spec

Checking a value reports the first mismatch, and that order is of no account when nothing is wrong:
an object meets its spec when every listed field does, a uniform one when every entry does, and a
union is met by what meets one of its alternatives. Where something is wrong, the order decides; a
mismatch in a field of an object wins over one that lies in being an object.
-/

namespace UrlCalculus

namespace Spec

variable {value : Option Value} {entries : Entries}

/-! ## Named checks in order

The fields of an object and the entries of a uniform one are checked in the same manner. -/

/-- The first failure among outcomes, each seen from outside under its name. -/
def firstFailure : List (String × Except Mismatch Unit) → Except Mismatch Unit
  | [] => .ok ()
  | (name, outcome) :: rest => do
    outcome.mapError (Mismatch.under name)
    firstFailure rest

theorem firstFailure_eq_ok_iff {outcomes : List (String × Except Mismatch Unit)} :
    firstFailure outcomes = .ok () ↔ ∀ outcome ∈ outcomes, outcome.2 = .ok () := by
  induction outcomes with
  | nil => simp [firstFailure]
  | cons outcome rest ih =>
    rw [firstFailure, check_bind_eq_ok_iff, mapError_eq_ok_iff, ih, List.forall_mem_cons]

theorem exists_of_firstFailure_eq_error {outcomes : List (String × Except Mismatch Unit)}
    {m : Mismatch} (h : firstFailure outcomes = .error m) :
    ∃ outcome ∈ outcomes, ∃ inner, outcome.2 = .error inner ∧ m = inner.under outcome.1 := by
  induction outcomes with
  | nil => cases h
  | cons outcome rest ih =>
    obtain ⟨name, outcome⟩ := outcome
    rw [firstFailure] at h
    cases outcome with
    | error inner =>
      cases h
      exact ⟨_, List.mem_cons_self, inner, rfl, rfl⟩
    | ok _ =>
      obtain ⟨other, hother, hinner⟩ := ih h
      exact ⟨other, List.mem_cons_of_mem _ hother, hinner⟩

theorem checkEntries_eq_firstFailure (checkItem : Value → Except Mismatch Unit)
    (entries : Entries) :
    checkEntries checkItem entries =
      firstFailure (entries.map fun entry ↦ (entry.1, checkItem entry.2)) := by
  induction entries with
  | nil => rfl
  | cons entry rest ih => rw [checkEntries, ih, List.map_cons, firstFailure]

theorem checkFields_eq_firstFailure (fields : List (String × Spec)) (entries : Entries) :
    checkFields fields entries =
      firstFailure (fields.map fun field ↦
        (field.1, field.2.check (Entries.get? entries field.1))) := by
  induction fields with
  | nil => rfl
  | cons field rest ih => rw [checkFields, ih, List.map_cons, firstFailure]

/-! ## Checks inside an object

An object is checked by what is inside, and all else fails as a whole. -/

def inObject (s : Spec) (checkInside : Entries → Except Mismatch Unit) :
    Option Value → Except Mismatch Unit
  | some (.object entries) => checkInside entries
  | value => .error (s.atTop value)

section InObject

variable {s : Spec} {checkInside : Entries → Except Mismatch Unit}

theorem inObject_eq_ok_iff :
    inObject s checkInside value = .ok () ↔
      ∃ entries, value = some (.object entries) ∧ checkInside entries = .ok () := by
  rw [inObject.eq_def]
  split
  · simp
  · rename_i hother
    constructor
    · intro h
      cases h
    · rintro ⟨entries, hvalue, -⟩
      exact absurd hvalue (hother entries)

theorem inObject_eq_error {m : Mismatch} (h : inObject s checkInside value = .error m) :
    m = s.atTop value ∨
      ∃ entries, value = some (.object entries) ∧ checkInside entries = .error m := by
  rw [inObject.eq_def] at h
  split at h
  · exact .inr ⟨_, rfl, h⟩
  · exact .inl (Except.error.inj h).symm

end InObject

theorem check_object (fields : List (String × Spec)) (value : Option Value) :
    check (.object fields) value = inObject (.object fields) (checkFields fields) value := by
  cases value with
  | none => rfl
  | some v => cases v <;> rfl

theorem check_objectOf (s : Spec) (value : Option Value) :
    check (.objectOf s) value =
      inObject (.objectOf s) (checkEntries fun item ↦ s.check (some item)) value := by
  cases value with
  | none => rfl
  | some v => cases v <;> rfl

/-! ## When a check succeeds -/

theorem checkEntries_eq_ok_iff (checkItem : Value → Except Mismatch Unit) :
    checkEntries checkItem entries = .ok () ↔ ∀ entry ∈ entries, checkItem entry.2 = .ok () := by
  rw [checkEntries_eq_firstFailure, firstFailure_eq_ok_iff, List.forall_mem_map]

theorem checkFields_eq_ok_iff {fields : List (String × Spec)} :
    checkFields fields entries = .ok () ↔
      ∀ field ∈ fields, field.2.check (Entries.get? entries field.1) = .ok () := by
  rw [checkFields_eq_firstFailure, firstFailure_eq_ok_iff, List.forall_mem_map]

theorem checkAlternatives_eq_ok_iff {alternatives : List Spec} :
    checkAlternatives alternatives value = .ok () ↔
      ∃ s ∈ alternatives, s.check value = .ok () := by
  induction alternatives with
  | nil => simp [checkAlternatives]
  | cons s rest ih =>
    rw [checkAlternatives]
    cases h : s.check value with
    | ok _ => simp [h]
    | error m => simp [h, mapError_eq_ok_iff, ih]

theorem check_oneOf_eq_ok_iff {alternatives : List Spec} :
    check (.oneOf alternatives) value = .ok () ↔ ∃ s ∈ alternatives, s.check value = .ok () := by
  rw [check, mapError_eq_ok_iff, checkAlternatives_eq_ok_iff]

theorem check_object_eq_ok_iff {fields : List (String × Spec)} :
    check (.object fields) value = .ok () ↔
      ∃ entries, value = some (.object entries) ∧
        ∀ field ∈ fields, field.2.check (Entries.get? entries field.1) = .ok () := by
  simp only [check_object, inObject_eq_ok_iff, checkFields_eq_ok_iff]

theorem check_objectOf_eq_ok_iff {s : Spec} :
    check (.objectOf s) value = .ok () ↔
      ∃ entries, value = some (.object entries) ∧
        ∀ entry ∈ entries, s.check (some entry.2) = .ok () := by
  simp only [check_objectOf, inObject_eq_ok_iff, checkEntries_eq_ok_iff]

theorem check_string_eq_ok_iff :
    check .string value = .ok () ↔ ∃ s, value = some (.string s) := by
  cases value with
  | none => simp [check]
  | some v => cases v <;> simp [check]

theorem check_number_eq_ok_iff :
    check .number value = .ok () ↔ ∃ n, value = some (.number n) := by
  cases value with
  | none => simp [check]
  | some v => cases v <;> simp [check]

theorem check_undefined_eq_ok_iff : check .undefined value = .ok () ↔ value = none := by
  cases value <;> simp [check]

theorem check_optional_eq_ok_iff {s : Spec} :
    check s.optional value = .ok () ↔ s.check value = .ok () ∨ value = none := by
  simp [optional, check_oneOf_eq_ok_iff, check_undefined_eq_ok_iff]

/-! ## Where the mismatch is -/

/-- A mismatch of listed fields is that of one of them, seen from outside. -/
theorem exists_field_of_checkFields {fields : List (String × Spec)} {m : Mismatch}
    (h : checkFields fields entries = .error m) :
    ∃ field ∈ fields, ∃ inner, field.2.check (Entries.get? entries field.1) = .error inner ∧
      m = inner.under field.1 := by
  rw [checkFields_eq_firstFailure] at h
  obtain ⟨_, hmem, inner, hinner, rfl⟩ := exists_of_firstFailure_eq_error h
  obtain ⟨field, hfield, rfl⟩ := List.mem_map.mp hmem
  exact ⟨field, hfield, inner, hinner, rfl⟩

/-- A mismatch of entries is that of one of them, seen from outside. -/
theorem exists_entry_of_checkEntries {checkItem : Value → Except Mismatch Unit} {m : Mismatch}
    (h : checkEntries checkItem entries = .error m) :
    ∃ entry ∈ entries, ∃ inner, checkItem entry.2 = .error inner ∧ m = inner.under entry.1 := by
  rw [checkEntries_eq_firstFailure] at h
  obtain ⟨_, hmem, inner, hinner, rfl⟩ := exists_of_firstFailure_eq_error h
  obtain ⟨entry, hentry, rfl⟩ := List.mem_map.mp hmem
  exact ⟨entry, hentry, inner, hinner, rfl⟩

/-- The mismatch that failed alternatives carry is that of one of them. -/
theorem exists_alternative_of_checkAlternatives {alternatives : List Spec} {m : Mismatch}
    (h : checkAlternatives alternatives value = .error (some m)) :
    ∃ s ∈ alternatives, s.check value = .error m := by
  induction alternatives with
  | nil => cases h
  | cons s rest ih =>
    rw [checkAlternatives] at h
    cases hs : s.check value with
    | ok _ =>
      rw [hs] at h
      cases h
    | error first =>
      simp only [hs] at h
      cases hrest : checkAlternatives rest value with
      | ok _ =>
        rw [hrest] at h
        cases h
      | error later =>
        rw [hrest, mapError_error, Except.error.injEq] at h
        split at h
        · obtain ⟨t, ht, htvalue⟩ := ih (hrest.trans (congrArg Except.error h))
          exact ⟨t, List.mem_cons_of_mem _ ht, htvalue⟩
        · cases h
          exact ⟨s, List.mem_cons_self, hs⟩

/-- A mismatch in a field is below the top. -/
theorem path_ne_nil_of_checkFields {fields : List (String × Spec)} {m : Mismatch}
    (h : checkFields fields entries = .error m) : m.path ≠ [] := by
  obtain ⟨field, -, inner, -, rfl⟩ := exists_field_of_checkFields h
  exact List.cons_ne_nil _ _

/-- Of an object, a union of strings and objects asks what the spec of the objects does, and reports
the mismatch that this one finds. -/
theorem check_oneOf_string_object (fields : List (String × Spec)) (entries : Entries) :
    check (.oneOf [.string, .object fields]) (some (.object entries)) =
      check (.object fields) (some (.object entries)) := by
  simp only [check, checkAlternatives]
  cases hfields : checkFields fields entries with
  | ok _ => rfl
  | error m => simp [atTop, path_ne_nil_of_checkFields hfields]

end Spec

end UrlCalculus
