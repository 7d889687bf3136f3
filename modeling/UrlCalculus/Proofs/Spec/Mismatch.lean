import UrlCalculus.Proofs.Json.DistinctKeys
import UrlCalculus.Proofs.Spec

/-!
# What a spec describes, and where a value fails it

A spec describes a set of possibly absent values, and this set is given here without reference to
checking: by one rule for each form of a spec. Checking succeeds exactly on this set.

A mismatch has three parts, a path, a spec and a kind, and each is found by its own walk. The path
is followed from the value through objects; the spec is reached from the spec that was checked
through fields, entries and alternatives; the kind is that of what stands at the end of the path. The
two walks go in step, a key for each field or entry, while an alternative takes no key. A union that has
to choose among the mismatches of its alternatives chooses all three parts together: what stands at
the end of the path fails the spec at the end of the other walk, and fails it as a whole.

## Distinct keys

An object that is checked entry by entry is left at the entry that failed, while the path leads to
the first entry with that key. In an object that was read these are the same.
-/

namespace UrlCalculus

/-- The value at the end of a path of keys, which is absent where the last key is missing. Every key
is looked up in an object. -/
inductive Value.LeadsTo : Option Value → List String → Option Value → Prop where
  | here (value : Option Value) : LeadsTo value [] value
  | key {key : String} {path : List String} {entries : Entries} {w : Option Value} :
      LeadsTo (Entries.get? entries key) path w → LeadsTo (some (.object entries)) (key :: path) w

namespace Spec

/-! ## Sets of values -/

/-- A possibly absent value belongs to the set of a spec. -/
inductive Describes : Spec → Option Value → Prop where
  | any (value : Option Value) : Describes .any value
  | undefined : Describes .undefined none
  | string (s : String) : Describes .string (some (.string s))
  | number (n : Number) : Describes .number (some (.number n))
  | boolean (b : Bool) : Describes .boolean (some (.bool b))
  | array (items : List Value) : Describes .array (some (.array items))
  | object {fields : List (String × Spec)} {entries : Entries} :
      (∀ field ∈ fields, Describes field.2 (Entries.get? entries field.1)) →
      Describes (.object fields) (some (.object entries))
  | objectOf {s : Spec} {entries : Entries} :
      (∀ entry ∈ entries, Describes s (some entry.2)) →
      Describes (.objectOf s) (some (.object entries))
  | oneOf {s : Spec} {alternatives : List Spec} {value : Option Value} :
      s ∈ alternatives → Describes s value → Describes (.oneOf alternatives) value

/-- The specs that are reached from a spec in step with a path: a key leads to the field of that
name or to the spec of all entries, and an alternative is taken without a key. -/
inductive Reaches : Spec → List String → Spec → Prop where
  | here (s : Spec) : Reaches s [] s
  | field {s t : Spec} {name : String} {path : List String} {fields : List (String × Spec)} :
      (name, s) ∈ fields → Reaches s path t → Reaches (.object fields) (name :: path) t
  | entry {s t : Spec} {key : String} {path : List String} :
      Reaches s path t → Reaches (.objectOf s) (key :: path) t
  | alternative {s t : Spec} {path : List String} {alternatives : List Spec} :
      s ∈ alternatives → Reaches s path t → Reaches (.oneOf alternatives) path t

/-! ## Simple specs -/

/-- The kind that a spec asks for, if it asks for nothing else. -/
def kind? : Spec → Option Kind
  | .undefined => some .undefined
  | .string => some .string
  | .number => some .number
  | .boolean => some .boolean
  | .array => some .array
  | _ => none

section Simple

variable {s : Spec} {kind : Kind}

theorem check_of_kind? (h : s.kind? = some kind) (value : Option Value) :
    s.check value = if Kind.of value = kind then .ok () else .error (s.atTop value) := by
  cases s with
  | undefined | string | number | boolean | array =>
    cases h
    cases value with
    | none => rfl
    | some v => cases v <;> rfl
  | _ => cases h

theorem describes_of_kind? (h : s.kind? = some kind) {value : Option Value}
    (hvalue : Kind.of value = kind) : s.Describes value := by
  cases s with
  | undefined | string | number | boolean | array =>
    cases h
    cases value with
    | none => first | constructor | cases hvalue
    | some v => cases v <;> first | constructor | cases hvalue
  | _ => cases h

end Simple

/-- **Induction on specs.** What holds of an object when it holds of its fields, of a uniform object
when it holds of the entries, and of a union when it holds of the alternatives, holds of all specs
if it holds of those that only ask for a kind or for nothing. -/
@[elab_as_elim]
theorem nested_induction {motive : Spec → Prop} (any : motive .any)
    (simple : ∀ s kind, kind? s = some kind → motive s)
    (object : ∀ fields : List (String × Spec), (∀ field ∈ fields, motive field.2) →
      motive (.object fields))
    (objectOf : ∀ s, motive s → motive (.objectOf s))
    (oneOf : ∀ alternatives : List Spec, (∀ s ∈ alternatives, motive s) →
      motive (.oneOf alternatives))
    (s : Spec) : motive s :=
  match s with
  | .any => any
  | .undefined => simple _ _ rfl
  | .string => simple _ _ rfl
  | .number => simple _ _ rfl
  | .boolean => simple _ _ rfl
  | .array => simple _ _ rfl
  | .object fields => object fields fun field _ ↦
    nested_induction any simple object objectOf oneOf field.2
  | .objectOf s => objectOf s (nested_induction any simple object objectOf oneOf s)
  | .oneOf alternatives => oneOf alternatives fun s _ ↦
    nested_induction any simple object objectOf oneOf s
termination_by sizeOf s
decreasing_by
  · rename_i hfield
    have hlt := List.sizeOf_lt_of_mem hfield
    obtain ⟨name, s⟩ := field
    simp only [Spec.object.sizeOf_spec, Prod.mk.sizeOf_spec] at hlt ⊢
    omega
  · simp only [Spec.objectOf.sizeOf_spec]
    omega
  · rename_i hs
    have hlt := List.sizeOf_lt_of_mem hs
    simp only [Spec.oneOf.sizeOf_spec]
    omega

/-! ## Success -/

variable {s : Spec} {value : Option Value} {m : Mismatch}

/-- Checking accepts all that the spec describes. -/
theorem Describes.check_eq_ok (h : s.Describes value) : s.check value = .ok () := by
  induction h with
  | any | undefined | string | number | boolean | array => rfl
  | object _ ih => exact check_object_eq_ok_iff.mpr ⟨_, rfl, ih⟩
  | objectOf _ ih => exact check_objectOf_eq_ok_iff.mpr ⟨_, rfl, ih⟩
  | oneOf hs _ ih => exact check_oneOf_eq_ok_iff.mpr ⟨_, hs, ih⟩

/-- What is accepted belongs to the set. -/
theorem describes_of_check (h : s.check value = .ok ()) : s.Describes value := by
  induction s using nested_induction generalizing value with
  | any => exact .any value
  | simple s kind hkind =>
    refine describes_of_kind? hkind ?_
    rw [check_of_kind? hkind] at h
    by_contra hne
    rw [if_neg hne] at h
    cases h
  | object fields ih =>
    obtain ⟨entries, rfl, hfields⟩ := check_object_eq_ok_iff.mp h
    exact .object fun field hfield ↦ ih field hfield (hfields field hfield)
  | objectOf s ih =>
    obtain ⟨entries, rfl, hentries⟩ := check_objectOf_eq_ok_iff.mp h
    exact .objectOf fun entry hentry ↦ ih (hentries entry hentry)
  | oneOf alternatives ih =>
    obtain ⟨s, hs, hvalue⟩ := check_oneOf_eq_ok_iff.mp h
    exact .oneOf hs (ih s hs hvalue)

/-! ## Failure -/

theorem check_oneOf_eq_error {alternatives : List Spec}
    (h : check (.oneOf alternatives) value = .error m) :
    m = atTop (.oneOf alternatives) value ∨ ∃ s ∈ alternatives, s.check value = .error m := by
  rw [check] at h
  cases hfailed : checkAlternatives alternatives value with
  | ok _ =>
    rw [hfailed] at h
    cases h
  | error deepest =>
    rw [hfailed, mapError_error, Except.error.injEq] at h
    cases deepest with
    | none => exact .inl h.symm
    | some inner =>
      obtain rfl : inner = m := h
      exact .inr (exists_alternative_of_checkAlternatives hfailed)

end Spec

/-! ## The culprit -/

/-- A mismatch of a value with a spec points at a possibly absent value inside: its path leads
there, its kind is the one found there, and the spec it names is reached in step with the path and
fails there as a whole. -/
structure Mismatch.PointsAt (m : Mismatch) (s : Spec) (value w : Option Value) : Prop where
  place : Value.LeadsTo value m.path w
  found : m.found = Kind.of w
  spec : s.Reaches m.path m.expected
  fails : m.expected.check w = .error (m.expected.atTop w)

namespace Spec

variable {s : Spec} {value w : Option Value} {m : Mismatch}

theorem pointsAt_atTop (h : s.check value = .error (s.atTop value)) :
    (s.atTop value).PointsAt s value value :=
  ⟨.here value, rfl, .here s, h⟩

/-- **A mismatch points at a culprit.** -/
theorem exists_pointsAt (hvalue : ∀ v ∈ value, v.distinctKeys = true)
    (h : s.check value = .error m) : ∃ w, m.PointsAt s value w := by
  induction s using nested_induction generalizing value m with
  | any => cases h
  | simple s kind hkind =>
    have hm := h
    rw [check_of_kind? hkind] at hm
    split at hm
    · cases hm
    · cases hm
      exact ⟨value, pointsAt_atTop h⟩
  | object fields ih =>
    rcases inObject_eq_error (check_object fields value ▸ h) with rfl | ⟨entries, rfl, hfields⟩
    · exact ⟨value, pointsAt_atTop h⟩
    · obtain ⟨⟨name, s⟩, hfield, inner, hinner, rfl⟩ := exists_field_of_checkFields hfields
      have hentries := Value.distinctKeys_object_iff.mp (hvalue _ rfl)
      have hbelow : ∀ v ∈ Entries.get? entries name, v.distinctKeys = true := by
        intro v hv
        exact hentries.2 (name, v) (Entries.mem_of_get? hv)
      obtain ⟨w, hw⟩ := ih _ hfield hbelow hinner
      exact ⟨w, .key hw.place, hw.found, .field hfield hw.spec, hw.fails⟩
  | objectOf s ih =>
    rcases inObject_eq_error (check_objectOf s value ▸ h) with rfl | ⟨entries, rfl, hentries⟩
    · exact ⟨value, pointsAt_atTop h⟩
    · obtain ⟨⟨key, item⟩, hentry, inner, hinner, rfl⟩ := exists_entry_of_checkEntries hentries
      obtain ⟨hnodup, hitems⟩ := Value.distinctKeys_object_iff.mp (hvalue _ rfl)
      have hitem : ∀ v ∈ some item, v.distinctKeys = true := by
        rintro _ ⟨⟩
        exact hitems _ hentry
      obtain ⟨w, hw⟩ := ih hitem hinner
      have hplace : Value.LeadsTo (Entries.get? entries key) inner.path w := by
        rw [Entries.get?_of_mem hnodup hentry]
        exact hw.place
      exact ⟨w, .key hplace, hw.found, .entry hw.spec, hw.fails⟩
  | oneOf alternatives ih =>
    rcases check_oneOf_eq_error h with rfl | ⟨s, hs, hsvalue⟩
    · exact ⟨value, pointsAt_atTop h⟩
    · obtain ⟨w, hw⟩ := ih s hs hvalue hsvalue
      exact ⟨w, hw.place, hw.found, .alternative hs hw.spec, hw.fails⟩

/-- **Checking accepts exactly the set of a spec, and a mismatch points at what is wrong**: its path
leads to a possibly absent value of the kind it names, and the text it shows is that of a spec
reached in step with the path, which that value fails at the top. -/
theorem check_eq_ok_iff_and_leadsTo (s : Spec) (value : Option Value) :
    (s.check value = .ok () ↔ s.Describes value) ∧
      ((∀ v ∈ value, v.distinctKeys = true) → ∀ m, s.check value = .error m →
        ∃ w t, Value.LeadsTo value m.path w ∧ Kind.of w = m.found ∧
          s.Reaches m.path t ∧ m.expected.label = t.label ∧ t.check w = .error (t.atTop w)) := by
  refine ⟨⟨describes_of_check, Describes.check_eq_ok⟩, ?_⟩
  intro hvalue m hm
  obtain ⟨w, hw⟩ := exists_pointsAt hvalue hm
  exact ⟨w, m.expected, hw.place, hw.found.symm, hw.spec, rfl, hw.fails⟩

/-- Two alternatives that can fail below the top, the first of them in a union of its own. -/
def nestedSpec : Spec :=
  .oneOf [.string, .object [("a", .objectOf (.oneOf [.number, .array]))], .object [("b", .string)]]

def nestedValue : Value :=
  .object [("b", .null),
    ("a", .object [("x", .number (.natural 1 (by decide))), ("y", .bool true)])]

theorem check_nestedSpec_leadsTo :
    nestedValue.distinctKeys = true ∧
      nestedSpec.check (some nestedValue) =
        .error ⟨["a", "y"], .oneOf [.number, .array], .boolean⟩ ∧
      ∃ w t, Value.LeadsTo (some nestedValue) ["a", "y"] w ∧ Kind.of w = .boolean ∧
        nestedSpec.Reaches ["a", "y"] t ∧ "number | array" = t.label ∧
        t.check w = .error (t.atTop w) := by
  have hdistinct : ∀ v ∈ some nestedValue, v.distinctKeys = true := by
    rintro _ ⟨⟩
    rfl
  have hcheck : nestedSpec.check (some nestedValue) =
      .error ⟨["a", "y"], .oneOf [.number, .array], .boolean⟩ := rfl
  exact ⟨rfl, hcheck,
    (check_eq_ok_iff_and_leadsTo nestedSpec (some nestedValue)).2 hdistinct _ hcheck⟩

end Spec

end UrlCalculus
