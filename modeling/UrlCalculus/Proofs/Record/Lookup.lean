import UrlCalculus.Proofs.Json.DistinctKeys
import UrlCalculus.Proofs.Json.Path
import UrlCalculus.Record

/-!
# Looking up components

A component of a record can be looked up in the record itself, and at a path in the object that the
record becomes. The first cuts the path at its first dot and takes what stands behind it as the name
of a search parameter, the second cuts it at every dot. Since the object is two levels deep, both
find the same text or nothing, except for search parameters that have a dot in their names: these
are in the record, and no path leads to them.
-/

namespace UrlCalculus

/-! ## Paths with and without dots -/

namespace Value

variable {value : Value} {path : String} {front rest : Text}

theorem resolve?_of_not_mem (hne : path ≠ "") (h : '.' ∉ path.toList) :
    value.resolve? path = value.child? path := by
  rw [resolve?_of_ne hne, Text.pieces_of_avoids (Text.avoids_beq_iff.mpr h), List.map_singleton,
    String.ofList_toList, descend?]
  exact Option.bind_fun_some _

theorem resolve?_of_dot (h : '.' ∉ front) (hpath : path.toList = front ++ '.' :: rest) :
    value.resolve? path = (value.child? (String.ofList front)).bind
      (·.descend? ((Text.pieces (· == '.') rest).map String.ofList)) := by
  have hne : path ≠ "" := by
    rintro rfl
    simp at hpath
  rw [resolve?_of_ne hne, hpath, Text.pieces_append (Text.avoids_beq_iff.mpr h) rfl,
    List.map_cons, descend?]
  rfl

/-- A text has nothing in it. -/
theorem descend?_string_pieces (s : String) (t : Text) :
    (string s).descend? ((Text.pieces (· == '.') t).map String.ofList) = none :=
  descend?_pieces_of_child? (fun _ ↦ rfl) t

end Value

namespace Record

variable {r : Record} {path : String} {front rest : Text}

theorem get?_of_not_mem (h : '.' ∉ path.toList) : r.get? path = r.component? path := by
  rw [get?, Text.cut_of_avoids (Text.avoids_beq_iff.mpr h)]

theorem get?_of_dot (h : '.' ∉ front) (hpath : path.toList = front ++ '.' :: rest) :
    r.get? path =
      if String.ofList front = "searchParams" then r.searchParams.get? (String.ofList rest)
      else none := by
  rw [get?, hpath, Text.cut_append (Text.avoids_beq_iff.mpr h) rfl]

/-! ## What stands in the object of a record -/

/-- Every field but the search parameters is a text. -/
theorem child?_toValue (r : Record) (name : String) :
    r.toValue.child? name =
      if name = "searchParams" then some r.searchParamsValue
      else (r.component? name).map .string := by
  by_cases hparams : name = "searchParams"
  · rw [if_pos hparams, hparams]
    rfl
  · rw [if_neg hparams]
    unfold component?
    split
    all_goals simp only [toValue, Value.child?, Entries.get?_cons, Entries.get?_nil]
    all_goals grind

theorem child?_searchParamsValue (r : Record) (name : String) :
    r.searchParamsValue.child? name = (r.searchParams.get? name).map .string := by
  rw [searchParamsValue, Value.child?, Entries.get?_map_string, SearchParams.get?]

/-- Behind a search parameter there is nothing, so a name with a dot in it is not found. -/
theorem descend?_searchParamsValue (r : Record) (name : Text) :
    r.searchParamsValue.descend? ((Text.pieces (· == '.') name).map String.ofList) =
      if '.' ∈ name then none else (r.searchParams.get? (String.ofList name)).map .string := by
  by_cases h : '.' ∈ name
  · obtain ⟨first, rest, rfl, hfirst⟩ := List.eq_append_cons_of_mem h
    rw [if_pos h, Text.pieces_append (Text.avoids_beq_iff.mpr hfirst) rfl, List.map_cons,
      Value.descend?, child?_searchParamsValue]
    cases r.searchParams.get? (String.ofList first) with
    | none => rfl
    | some s => exact Value.descend?_string_pieces s rest
  · rw [if_neg h, Text.pieces_of_avoids (Text.avoids_beq_iff.mpr h), List.map_singleton,
      ← child?_searchParamsValue]
    exact Option.bind_fun_some _

theorem exists_dotted_name_iff (hfront : String.ofList front = "searchParams")
    (hpath : path.toList = front ++ '.' :: rest) :
    (∃ name, '.' ∈ name.toList ∧ path = "searchParams." ++ name) ↔ '.' ∈ rest := by
  obtain rfl : front = "searchParams".toList := by rw [← hfront, String.toList_ofList]
  constructor
  · rintro ⟨name, hname, rfl⟩
    have hrest : name.toList = rest := by simpa using hpath
    rwa [← hrest]
  · intro hrest
    refine ⟨String.ofList rest, by simpa using hrest, String.toList_inj.mp ?_⟩
    simp [hpath]

/-- **The path of a component in the object of a record leads to the component**, unless it is a
search parameter with a dot in its name. -/
theorem resolve?_toValue_eq_some_iff (r : Record) (path s : String) :
    r.toValue.resolve? path = some (.string s) ↔
      r.get? path = some s ∧ ¬∃ name, '.' ∈ name.toList ∧ path = "searchParams." ++ name := by
  by_cases hdot : '.' ∈ path.toList
  · obtain ⟨front, rest, hpath, hfront⟩ := List.eq_append_cons_of_mem hdot
    rw [Value.resolve?_of_dot hfront hpath, get?_of_dot hfront hpath, child?_toValue]
    by_cases hparams : String.ofList front = "searchParams"
    · have hiff := exists_dotted_name_iff hparams hpath
      -- the rest is the name of a parameter for the one look-up, and a path for the other
      rw [if_pos hparams, if_pos hparams, Option.bind_some, descend?_searchParamsValue, hiff]
      by_cases hrest : '.' ∈ rest <;> simp [hrest]
    · rw [if_neg hparams, if_neg hparams]
      cases r.component? (String.ofList front) with
      | none => simp
      | some t => simp [Value.descend?_string_pieces]
  · have hnone : ¬∃ name, '.' ∈ name.toList ∧ path = "searchParams." ++ name := by
      rintro ⟨name, -, rfl⟩
      simp at hdot
    rw [get?_of_not_mem hdot, and_iff_left hnone]
    by_cases hempty : path = ""
    · subst hempty
      simp [toValue, component?]
    · rw [Value.resolve?_of_not_mem hempty hdot, child?_toValue]
      by_cases hparams : path = "searchParams"
      · subst hparams
        simp [searchParamsValue, component?]
      · simp [hparams]

/-- A name with a dot in it, as a query may have it. -/
theorem resolve?_toValue_dotted :
    ∃ r, Record.parse "http://h/?a.b=1" = .ok r ∧ r.get? "searchParams.a.b" = some "1" ∧
      r.toValue.resolve? "searchParams.a.b" = none :=
  ⟨_, rfl, rfl, rfl⟩

end Record

end UrlCalculus
