import UrlCalculus.Json.Path

/-!
# Parts of values

What stands in a value: the value itself, and whatever stands in one of its items or under one of
its keys. A path leads to a part. A value is nested in another one when it is a part with nothing
but arrays around it, so that no object hides it.

A value mentions a name when an array begins with that name anywhere in it. Values without arrays
mention nothing, whatever their strings are.
-/

namespace UrlCalculus

namespace Value

/-! ## Parts -/

/-- The first value stands in the second one. -/
inductive Part : Value → Value → Prop where
  | self (v : Value) : Part v v
  | item {w item : Value} {items : List Value} :
      item ∈ items → Part w item → Part w (.array items)
  | entry {w : Value} {entry : String × Value} {entries : Entries} :
      entry ∈ entries → Part w entry.2 → Part w (.object entries)

/-- The first value stands in the second one, and all around it are arrays. -/
inductive Nested : Value → Value → Prop where
  | self (v : Value) : Nested v v
  | item {w item : Value} {items : List Value} :
      item ∈ items → Nested w item → Nested w (.array items)

section Part

variable {u v w : Value}

theorem Part.trans (h : Part u v) (h' : Part v w) : Part u w := by
  induction h' with
  | self => exact h
  | item hitem _ ih => exact .item hitem ih
  | entry hentry _ ih => exact .entry hentry ih

theorem Nested.part (h : Nested w v) : Part w v := by
  induction h with
  | self => exact .self _
  | item hitem _ ih => exact .item hitem ih

/-- One segment leads to a part. -/
theorem part_of_child? {segment : String} (h : v.child? segment = some w) : Part w v := by
  cases v with
  | object entries =>
    obtain ⟨entry, hentry, rfl⟩ := Option.map_eq_some_iff.mp h
    exact .entry (List.mem_of_find?_eq_some hentry) (.self _)
  | array items =>
    obtain ⟨i, -, hitem⟩ := Option.bind_eq_some_iff.mp h
    exact .item (List.mem_of_getElem? hitem) (.self _)
  | _ => cases h

theorem part_of_descend? {segments : List String} (h : v.descend? segments = some w) :
    Part w v := by
  induction segments generalizing v with
  | nil =>
    cases h
    exact .self _
  | cons segment rest ih =>
    obtain ⟨inner, hinner, hrest⟩ := Option.bind_eq_some_iff.mp h
    exact (ih hrest).trans (part_of_child? hinner)

/-- **A path leads to a part.** -/
theorem part_of_resolve? {path : String} (h : v.resolve? path = some w) : Part w v := by
  rw [resolve?] at h
  split at h
  · cases h
    exact .self _
  · exact part_of_descend? h

end Part

/-! ## Names in front of arrays -/

/-- An array that begins with a name stands in a value. -/
def Mentions (name : String) (v : Value) : Prop :=
  ∃ arguments, Part (.array (.string name :: arguments)) v

/-- No array stands in a value. -/
def Arrayless (v : Value) : Prop :=
  ∀ items, ¬Part (.array items) v

section Mentions

variable {name : String} {v w : Value}

theorem Mentions.of_part (h : Part w v) (hw : w.Mentions name) : v.Mentions name := by
  obtain ⟨arguments, harguments⟩ := hw
  exact ⟨arguments, harguments.trans h⟩

theorem Arrayless.of_part (h : v.Arrayless) (hpart : Part w v) : w.Arrayless := by
  intro items hitems
  exact h items (hitems.trans hpart)

theorem Arrayless.not_mentions (h : v.Arrayless) : ¬v.Mentions name := by
  rintro ⟨arguments, harguments⟩
  exact h _ harguments

@[simp]
theorem mentions_array_iff {items : List Value} :
    (array items).Mentions name ↔
      items.head? = some (.string name) ∨ ∃ item ∈ items, item.Mentions name := by
  constructor
  · rintro ⟨arguments, h⟩
    cases h with
    | self => exact .inl rfl
    | item hitem hpart => exact .inr ⟨_, hitem, arguments, hpart⟩
  · rintro (h | ⟨item, hitem, h⟩)
    · obtain ⟨rest, rfl⟩ := List.head?_eq_some_iff.mp h
      exact ⟨rest, .self _⟩
    · exact .of_part (.item hitem (.self item)) h

@[simp]
theorem mentions_object_iff {entries : Entries} :
    (object entries).Mentions name ↔ ∃ entry ∈ entries, entry.2.Mentions name := by
  constructor
  · rintro ⟨arguments, h⟩
    cases h with
    | entry hentry hpart => exact ⟨_, hentry, arguments, hpart⟩
  · rintro ⟨entry, hentry, h⟩
    exact .of_part (.entry hentry (.self _)) h

end Mentions

/-! ## Values without arrays -/

theorem arrayless_null : Arrayless .null := by
  intro items h
  cases h

theorem arrayless_bool (b : Bool) : (bool b).Arrayless := by
  intro items h
  cases h

theorem arrayless_string (s : String) : (string s).Arrayless := by
  intro items h
  cases h

@[simp]
theorem not_mentions_string (name s : String) : ¬(string s).Mentions name :=
  (arrayless_string s).not_mentions

theorem arrayless_object {entries : Entries} (h : ∀ entry ∈ entries, entry.2.Arrayless) :
    (object entries).Arrayless := by
  intro items hpart
  cases hpart with
  | entry hentry hinner => exact h _ hentry items hinner

end Value

end UrlCalculus
