import Mathlib.Data.List.Induction
import Mathlib.Data.List.Nodup
import Mathlib.Data.List.Perm.Subperm
import UrlCalculus.Proofs.Text.LowerCase
import UrlCalculus.SearchParams

/-!
# Search parameters as maps

Search parameters are sorted by name, so a name is there at most once, and two search parameters are
equal as soon as they have the same entries in any order, or give the same answer to every look-up.

## Flattening

The search parameters of a list of pairs keep, of the pairs whose names agree in lower case, the
value of the last one. So they depend on the pairs only through what each name selects from them, and
this is not changed by exchanging neighbours that no name selects together.

All names are in lower case then. Search parameters of which this holds are left as they are when
they are flattened: no name changes, and no two of them meet.
-/

namespace UrlCalculus

namespace SearchParams

variable {p q : SearchParams} {name value : String}

/-! ## Entries -/

/-- What is found first under a name is all there is under it. -/
theorem get?_eq_some_iff : p.get? name = some value ↔ (name, value) ∈ p.entries := by
  rw [get?, List.lookup_eq_some_iff]
  constructor
  · rintro ⟨front, back, hentries, -⟩
    rw [hentries]
    exact List.mem_append_right front List.mem_cons_self
  · intro hmem
    obtain ⟨front, back, hentries⟩ := List.append_of_mem hmem
    have hsorted := p.sorted
    rw [hentries, List.pairwise_append] at hsorted
    refine ⟨front, back, hentries, fun entry hentry ↦ bne_iff_ne.mpr ?_⟩
    exact (String.ne_of_lt (hsorted.2.2 entry hentry _ List.mem_cons_self)).symm

theorem nodup_names (p : SearchParams) : (p.entries.map Prod.fst).Nodup := by
  rw [List.Nodup, List.pairwise_map]
  exact p.sorted.imp String.ne_of_lt

theorem nodup_entries (p : SearchParams) : p.entries.Nodup :=
  List.Nodup.of_map Prod.fst p.nodup_names

/-- Entries stand in one order only. -/
theorem eq_of_perm (h : p.entries.Perm q.entries) : p = q := by
  have hentries : p.entries = q.entries :=
    h.eq_of_pairwise (fun _ _ _ _ hlt hlt' ↦ absurd hlt' (String.lt_asymm hlt)) p.sorted q.sorted
  cases p
  cases q
  cases hentries
  rfl

/-- Among search parameters of one size, those that contain others are equal to them. -/
theorem eq_of_subset (hlength : p.entries.length = q.entries.length)
    (hsubset : p.entries ⊆ q.entries) : p = q := by
  have hsubperm := List.subperm_of_subset p.nodup_entries hsubset
  exact eq_of_perm (hsubperm.perm_of_length_le (Nat.le_of_eq hlength.symm))

/-- An entry with a new name is added. -/
theorem insertSorted_perm {entries : List (String × String)}
    (hnew : name ∉ entries.map Prod.fst) :
    (insertSorted name value entries).Perm ((name, value) :: entries) := by
  induction entries with
  | nil => exact .refl _
  | cons head rest ih =>
    obtain ⟨n, v⟩ := head
    rw [List.map_cons, List.mem_cons, not_or] at hnew
    rw [insertSorted]
    split
    · exact .refl _
    · rw [if_neg hnew.1]
      exact ((ih hnew.2).cons (n, v)).trans (.swap _ _ rest)

/-- Enter pairs one after the other, their names as they are. -/
def insertAll (p : SearchParams) (pairs : List (String × String)) : SearchParams :=
  pairs.foldl (fun p pair ↦ p.insert pair.1 pair.2) p

/-- Pairs with new and distinct names are added, whatever their order is. -/
theorem insertAll_perm {pairs : List (String × String)}
    (hnodup : ((p.entries ++ pairs).map Prod.fst).Nodup) :
    (p.insertAll pairs).entries.Perm (p.entries ++ pairs) := by
  induction pairs generalizing p with
  | nil =>
    rw [List.append_nil]
    exact .refl _
  | cons pair rest ih =>
    have hmiddle : (p.entries ++ pair :: rest).Perm (pair :: (p.entries ++ rest)) :=
      List.perm_middle
    have hnew := (hmiddle.map Prod.fst).nodup_iff.mp hnodup
    rw [List.map_cons, List.nodup_cons, List.map_append, List.mem_append, not_or] at hnew
    have hinsert : (p.insert pair.1 pair.2).entries.Perm (pair :: p.entries) :=
      insertSorted_perm hnew.1.1
    have hperm : ((p.insert pair.1 pair.2).entries ++ rest).Perm (p.entries ++ pair :: rest) :=
      (hinsert.append_right rest).trans hmiddle.symm
    exact (ih ((hperm.map Prod.fst).nodup_iff.mpr hnodup)).trans hperm

/-- **Search parameters are what is looked up in them.** -/
theorem eq_of_get? (h : ∀ name, p.get? name = q.get? name) : p = q := by
  refine eq_of_perm ((List.perm_ext_iff_of_nodup p.nodup_entries q.nodup_entries).mpr ?_)
  rintro ⟨name, value⟩
  rw [← get?_eq_some_iff, ← get?_eq_some_iff, h]

/-! ## Flattening -/

/-- The pairs whose names are a given one in lower case, in order. -/
def selected (name : String) (pairs : List (String × String)) : List (String × String) :=
  pairs.filter fun pair ↦ lowerString pair.1 = name

theorem ofPairs_concat (pairs : List (String × String)) (pair : String × String) :
    ofPairs (pairs ++ [pair]) = (ofPairs pairs).insert (lowerString pair.1) pair.2 := by
  rw [ofPairs, List.foldl_append, ofPairs, List.foldl_cons, List.foldl_nil]

/-- **The last pair counts.** -/
theorem get?_ofPairs (pairs : List (String × String)) (name : String) :
    (ofPairs pairs).get? name = ((selected name pairs).getLast?).map Prod.snd := by
  induction pairs using List.reverseRecOn with
  | nil => rfl
  | append_singleton rest pair ih =>
    rw [ofPairs_concat, get?_insert, selected, List.filter_append]
    by_cases h : lowerString pair.1 = name
    · rw [if_pos h.symm, List.filter_cons_of_pos (by simpa using h), List.filter_nil,
        List.getLast?_concat, Option.map_some]
    · rw [if_neg (Ne.symm h), List.filter_cons_of_neg (by simpa using h), List.filter_nil,
        List.append_nil, ih, selected]

/-- A name is there when some pair has it in lower case. -/
theorem isSome_get?_ofPairs_iff {pairs : List (String × String)} :
    ((ofPairs pairs).get? name).isSome = true ↔ ∃ pair ∈ pairs, lowerString pair.1 = name := by
  rw [get?_ofPairs, Option.isSome_map, List.getLast?_isSome, Ne, selected, List.filter_eq_nil_iff]
  simp

/-- Pairs in another order, as neighbours with different names in lower case change places. -/
inductive Reordered : List (String × String) → List (String × String) → Prop where
  | refl (pairs : List (String × String)) : Reordered pairs pairs
  | cons (pair : String × String) {rest rest' : List (String × String)} :
      Reordered rest rest' → Reordered (pair :: rest) (pair :: rest')
  | swap {a b : String × String} (rest : List (String × String)) :
      lowerString a.1 ≠ lowerString b.1 → Reordered (a :: b :: rest) (b :: a :: rest)
  | trans {pairs pairs' pairs'' : List (String × String)} :
      Reordered pairs pairs' → Reordered pairs' pairs'' → Reordered pairs pairs''

/-- The exchange is not seen from any one name. -/
theorem Reordered.selected_eq {pairs pairs' : List (String × String)} (h : Reordered pairs pairs')
    (name : String) : selected name pairs = selected name pairs' := by
  induction h with
  | refl => rfl
  | cons pair _ ih =>
    rw [selected, List.filter_cons, ← selected, ih, selected, selected, List.filter_cons]
  | @swap a b rest hne =>
    by_cases ha : lowerString a.1 = name
    · have hb : lowerString b.1 ≠ name := fun hb ↦ hne (ha.trans hb.symm)
      simp [selected, ha, hb]
    · simp [selected, ha, List.filter_cons]
  | trans _ _ ih ih' => exact ih.trans ih'

theorem Reordered.ofPairs_eq {pairs pairs' : List (String × String)}
    (h : Reordered pairs pairs') : ofPairs pairs = ofPairs pairs' := by
  refine eq_of_get? fun name ↦ ?_
  rw [get?_ofPairs, get?_ofPairs, h.selected_eq]

/-! ## Names in lower case -/

/-- That each name is its own lower-case form. -/
def InLowerCase (p : SearchParams) : Prop :=
  ∀ entry ∈ p.entries, lowerString entry.1 = entry.1

theorem inLowerCase_ofPairs (pairs : List (String × String)) : (ofPairs pairs).InLowerCase := by
  intro entry hentry
  have hsome : ((ofPairs pairs).get? entry.1).isSome = true := by
    rw [get?_eq_some_iff.mpr hentry, Option.isSome_some]
  obtain ⟨pair, -, hname⟩ := isSome_get?_ofPairs_iff.mp hsome
  rw [← hname, lowerString_lowerString]

theorem InLowerCase.get?_eq_none (h : p.InLowerCase) (hname : lowerString name ≠ name) :
    p.get? name = none := by
  rw [Option.eq_none_iff_forall_ne_some]
  intro value hvalue
  exact hname (h (name, value) (get?_eq_some_iff.mp hvalue))

/-- Names in lower case are entered as they are. -/
theorem ofPairs_eq_insertAll {pairs : List (String × String)}
    (h : ∀ pair ∈ pairs, lowerString pair.1 = pair.1) : ofPairs pairs = empty.insertAll pairs := by
  induction pairs using List.reverseRecOn with
  | nil => rfl
  | append_singleton rest pair ih =>
    obtain ⟨hrest, hpair⟩ := List.forall_mem_append.mp h
    rw [ofPairs_concat, ih hrest, hpair pair List.mem_cons_self, insertAll, insertAll,
      List.foldl_append, List.foldl_cons, List.foldl_nil]

/-- **What has been flattened is flat**, and this in any order of the entries. -/
theorem InLowerCase.ofPairs_eq (h : p.InLowerCase) {pairs : List (String × String)}
    (hpairs : pairs.Perm p.entries) : ofPairs pairs = p := by
  have hlower : ∀ pair ∈ pairs, lowerString pair.1 = pair.1 :=
    fun pair hpair ↦ h pair (hpairs.mem_iff.mp hpair)
  have hnodup : ((empty.entries ++ pairs).map Prod.fst).Nodup :=
    (hpairs.map Prod.fst).nodup_iff.mpr p.nodup_names
  rw [ofPairs_eq_insertAll hlower]
  exact eq_of_perm ((insertAll_perm hnodup).trans hpairs)

end SearchParams

end UrlCalculus
