import UrlCalculus.Text.Form
import UrlCalculus.Text.LowerCase

/-!
# Search parameters

The pairs of a query as a map: names are put into lower case, and of several pairs with one name the
last one counts. Names are kept in ascending order of their characters, which is also the order of
their UTF-8 bytes, so that two maps are equal exactly when they have the same entries.
-/

namespace UrlCalculus

structure SearchParams where
  entries : List (String × String)
  sorted : entries.Pairwise fun a b ↦ a.1 < b.1
deriving DecidableEq

namespace SearchParams

def empty : SearchParams := ⟨[], .nil⟩

instance : Inhabited SearchParams := ⟨empty⟩

def get? (params : SearchParams) (name : String) : Option String :=
  params.entries.lookup name

/-- Set the value of a name in a list in ascending order. -/
def insertSorted (name value : String) : List (String × String) → List (String × String)
  | [] => [(name, value)]
  | (n, v) :: rest =>
    if name < n then (name, value) :: (n, v) :: rest
    else if name = n then (name, value) :: rest
    else (n, v) :: insertSorted name value rest

theorem mem_insertSorted {name value : String} {entries : List (String × String)}
    {e : String × String} (h : e ∈ insertSorted name value entries) :
    e = (name, value) ∨ e ∈ entries := by
  induction entries with
  | nil => simpa [insertSorted] using h
  | cons head rest ih =>
    obtain ⟨n, v⟩ := head
    rw [insertSorted] at h
    split at h
    · simpa using h
    · split at h
      · rcases List.mem_cons.1 h with rfl | h
        · exact .inl rfl
        · exact .inr (List.mem_cons_of_mem _ h)
      · rcases List.mem_cons.1 h with rfl | h
        · exact .inr List.mem_cons_self
        · exact (ih h).imp_right (List.mem_cons_of_mem _)

theorem pairwise_insertSorted {entries : List (String × String)} (name value : String)
    (h : entries.Pairwise fun a b ↦ a.1 < b.1) :
    (insertSorted name value entries).Pairwise fun a b ↦ a.1 < b.1 := by
  induction entries with
  | nil => simp [insertSorted]
  | cons head rest ih =>
    obtain ⟨n, v⟩ := head
    obtain ⟨hhead, hrest⟩ := List.pairwise_cons.1 h
    rw [insertSorted]
    split
    · rename_i hlt
      refine List.pairwise_cons.2 ⟨fun e he ↦ ?_, h⟩
      rcases List.mem_cons.1 he with rfl | he
      · exact hlt
      · exact String.lt_trans hlt (hhead e he)
    · rename_i hnlt
      split
      · rename_i heq
        subst heq
        exact List.pairwise_cons.2 ⟨hhead, hrest⟩
      · rename_i hne
        refine List.pairwise_cons.2 ⟨fun e he ↦ ?_, ih hrest⟩
        rcases mem_insertSorted he with rfl | he
        · exact Decidable.byContradiction fun h' ↦
            hne (String.le_antisymm (String.not_lt.1 h') (String.not_lt.1 hnlt))
        · exact hhead e he

/-- Set the value of a name. -/
def insert (params : SearchParams) (name value : String) : SearchParams :=
  ⟨insertSorted name value params.entries, pairwise_insertSorted name value params.sorted⟩

theorem lookup_cons_eq (n v key : String) (rest : List (String × String)) :
    List.lookup key ((n, v) :: rest) = if key = n then some v else rest.lookup key := by
  rw [List.lookup_cons]
  split <;> simp_all

theorem lookup_insertSorted (name value key : String) (entries : List (String × String)) :
    (insertSorted name value entries).lookup key =
      if key = name then some value else entries.lookup key := by
  induction entries with
  | nil => rw [insertSorted, lookup_cons_eq]
  | cons head rest ih =>
    obtain ⟨n, v⟩ := head
    rw [insertSorted]
    split
    · rw [lookup_cons_eq]
    · split
      · rename_i heq
        subst heq
        by_cases h : key = name <;> simp [lookup_cons_eq, h]
      · rename_i hne
        by_cases h : key = n
        · subst h
          simp [Ne.symm hne]
        · simp [lookup_cons_eq, h, ih]

theorem get?_insert (params : SearchParams) (name value key : String) :
    (params.insert name value).get? key = if key = name then some value else params.get? key :=
  lookup_insertSorted name value key params.entries

/-- The map of pairs of names and values: names in lower case, the last value of each. -/
def ofPairs (pairs : List (String × String)) : SearchParams :=
  pairs.foldl (fun params pair ↦ params.insert (lowerString pair.1) pair.2) empty

/-- The parameters of a query. -/
def ofQuery (query : Text) : SearchParams :=
  ofPairs ((Text.formDecode query).map fun (name, value) ↦
    (String.ofList name, String.ofList value))

end SearchParams

end UrlCalculus
