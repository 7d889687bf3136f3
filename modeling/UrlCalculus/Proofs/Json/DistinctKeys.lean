import Mathlib.Data.List.Induction
import UrlCalculus.Json.Reader
import UrlCalculus.Proofs.Json.Part

/-!
# Objects with distinct keys

No object that was read has two entries with one key, at any depth: an entry whose key is there
already takes the place of the earlier one. In such an object every entry is found under its key,
and the order in which entries are looked at does not matter. An object that is put together from
pairs has each key where it was first written, with the value that was written last.
-/

namespace UrlCalculus

/-! ## Values with distinct keys -/

namespace Value

theorem distinctKeys_array_iff {items : List Value} :
    (array items).distinctKeys = true ↔ ∀ item ∈ items, item.distinctKeys = true := by
  change distinctKeysItems items = true ↔ _
  induction items with
  | nil => simp [distinctKeysItems]
  | cons item rest ih => rw [distinctKeysItems, Bool.and_eq_true, ih, List.forall_mem_cons]

theorem distinctKeys_object_iff {entries : Entries} :
    (object entries).distinctKeys = true ↔
      (entries.map Prod.fst).Nodup ∧ ∀ entry ∈ entries, entry.2.distinctKeys = true := by
  change distinctKeysEntries entries = true ↔ _
  induction entries with
  | nil => simp [distinctKeysEntries]
  | cons entry rest ih =>
    obtain ⟨key, value⟩ := entry
    have hnew : (!rest.any fun entry ↦ entry.1 == key) = true ↔ key ∉ rest.map Prod.fst := by
      simp only [Bool.not_eq_true', List.any_eq_false, beq_iff_eq, List.mem_map, not_exists,
        not_and]
    rw [distinctKeysEntries, Bool.and_eq_true, Bool.and_eq_true, hnew, ih, List.map_cons,
      List.nodup_cons, List.forall_mem_cons]
    exact ⟨fun ⟨⟨hkey, hvalue⟩, hnodup, hrest⟩ ↦ ⟨⟨hkey, hnodup⟩, hvalue, hrest⟩,
      fun ⟨⟨hkey, hnodup⟩, hvalue, hrest⟩ ↦ ⟨⟨hkey, hvalue⟩, hnodup, hrest⟩⟩

theorem Part.distinctKeys {v w : Value} (h : Part w v) (hv : v.distinctKeys = true) :
    w.distinctKeys = true := by
  induction h with
  | self => exact hv
  | item hitem _ ih => exact ih (distinctKeys_array_iff.mp hv _ hitem)
  | entry hentry _ ih => exact ih ((distinctKeys_object_iff.mp hv).2 _ hentry)

theorem distinctKeys_getD_resolve? {v : Value} (hv : v.distinctKeys = true) (path : String) :
    ((v.resolve? path).getD .null).distinctKeys = true := by
  cases hpath : v.resolve? path with
  | none => rfl
  | some w => exact (part_of_resolve? hpath).distinctKeys hv

end Value

namespace Entries

variable {entries : Entries} {key name : String} {value : Value}

/-! ## Looking up entries -/

theorem get?_eq_none (h : key ∉ entries.map Prod.fst) : get? entries key = none := by
  rw [get?, Option.map_eq_none_iff, List.find?_eq_none]
  intro entry hentry heq
  exact h (eq_of_beq heq ▸ List.mem_map_of_mem hentry)

theorem mem_of_get? (h : get? entries key = some value) : (key, value) ∈ entries := by
  obtain ⟨⟨k, v⟩, hfind, rfl⟩ := Option.map_eq_some_iff.mp h
  have hkey := List.find?_some hfind
  obtain rfl : k = key := eq_of_beq hkey
  exact List.mem_of_find?_eq_some hfind

theorem get?_append (front back : Entries) (key : String) :
    get? (front ++ back) key = (get? front key).or (get? back key) := by
  rw [get?, List.find?_append, Option.map_or]
  rfl

theorem get?_append_of_eq_none {more : Entries} (h : get? entries key = none) :
    get? (entries ++ more) key = get? more key := by
  rw [get?_append, h, Option.none_or]

theorem get?_concat_of_ne (h : key ≠ name) :
    get? (entries ++ [(key, value)]) name = get? entries name := by
  rw [get?_append, get?_cons, if_neg h, get?_nil, Option.or_none]

/-- Under distinct keys every entry is found. -/
theorem get?_of_mem (hnodup : (entries.map Prod.fst).Nodup) (h : (key, value) ∈ entries) :
    get? entries key = some value := by
  induction entries with
  | nil => cases h
  | cons entry rest ih =>
    obtain ⟨k, v⟩ := entry
    rw [List.map_cons, List.nodup_cons] at hnodup
    rw [get?_cons]
    rcases List.mem_cons.mp h with heq | hrest
    · cases heq
      rw [if_pos rfl]
    · rw [if_neg ?_, ih hnodup.2 hrest]
      rintro rfl
      exact hnodup.1 (List.mem_map.mpr ⟨_, hrest, rfl⟩)

/-- Pairs of texts as entries. -/
theorem get?_map_string (pairs : List (String × String)) (name : String) :
    get? (pairs.map fun (name, value) ↦ (name, .string value)) name =
      (pairs.lookup name).map .string := by
  induction pairs with
  | nil => rfl
  | cons pair rest ih =>
    obtain ⟨n, v⟩ := pair
    rw [List.map_cons, get?_cons, List.lookup_cons, ih]
    by_cases h : n = name
    · simp [h]
    · simp [h, beq_false_of_ne (Ne.symm h)]

/-! ## Building objects -/

theorem mem_insert {entry : String × Value} (h : entry ∈ insert key value entries) :
    entry = (key, value) ∨ entry ∈ entries := by
  induction entries with
  | nil => exact .inl (List.mem_singleton.mp h)
  | cons head rest ih =>
    obtain ⟨k, v⟩ := head
    rw [insert] at h
    split at h
    · rename_i hk
      rcases List.mem_cons.mp h with rfl | h
      · exact .inl (by rw [eq_of_beq hk])
      · exact .inr (List.mem_cons_of_mem _ h)
    · rcases List.mem_cons.mp h with rfl | h
      · exact .inr List.mem_cons_self
      · exact (ih h).imp_right (List.mem_cons_of_mem _)

theorem nodup_insert (h : (entries.map Prod.fst).Nodup) :
    ((insert key value entries).map Prod.fst).Nodup := by
  induction entries with
  | nil => exact List.pairwise_singleton _ key
  | cons head rest ih =>
    obtain ⟨k, v⟩ := head
    rw [List.map_cons, List.nodup_cons] at h
    rw [insert]
    split
    · exact List.nodup_cons.mpr h
    · rename_i hk
      refine List.nodup_cons.mpr ⟨fun hmem ↦ ?_, ih h.2⟩
      obtain ⟨entry, hentry, hkey⟩ := List.mem_map.mp hmem
      rcases mem_insert hentry with rfl | hentry
      · exact hk (beq_of_eq hkey.symm)
      · exact h.1 (List.mem_map.mpr ⟨entry, hentry, hkey⟩)

theorem insert_of_not_mem (h : key ∉ entries.map Prod.fst) :
    insert key value entries = entries ++ [(key, value)] := by
  induction entries with
  | nil => rfl
  | cons head rest ih =>
    obtain ⟨k, v⟩ := head
    rw [List.map_cons, List.mem_cons, not_or] at h
    rw [insert, if_neg (by simpa using Ne.symm h.1), ih h.2, List.cons_append]

theorem keys_insert_of_mem (h : key ∈ entries.map Prod.fst) :
    (insert key value entries).map Prod.fst = entries.map Prod.fst := by
  induction entries with
  | nil => cases h
  | cons head rest ih =>
    obtain ⟨k, v⟩ := head
    rw [insert]
    split
    · rfl
    · rename_i hk
      rw [List.map_cons, List.mem_cons] at h
      rw [List.map_cons, List.map_cons, ih (h.resolve_left fun heq ↦ hk (beq_of_eq heq.symm))]

theorem ofPairs_concat (pairs : List (String × Value)) (key : String) (value : Value) :
    ofPairs (pairs ++ [(key, value)]) = insert key value (ofPairs pairs) := by
  rw [ofPairs, List.foldl_append, ofPairs, List.foldl_cons, List.foldl_nil]

/-- What is put together from pairs has distinct keys, and nothing in it that was not there. -/
theorem ofPairs_spec (pairs : List (String × Value)) :
    ((ofPairs pairs).map Prod.fst).Nodup ∧ ∀ entry ∈ ofPairs pairs, entry ∈ pairs := by
  induction pairs using List.reverseRecOn with
  | nil => exact ⟨List.nodup_nil, List.forall_mem_nil _⟩
  | append_singleton rest pair ih =>
    obtain ⟨hnodup, hmem⟩ := ih
    rw [ofPairs_concat]
    refine ⟨nodup_insert hnodup, fun entry hentry ↦ ?_⟩
    rcases mem_insert hentry with rfl | hentry
    · exact List.mem_append_right _ List.mem_cons_self
    · exact List.mem_append_left _ (hmem entry hentry)

/-- Each key stands where it was first written. -/
theorem keys_ofPairs (pairs : List (String × Value)) :
    (ofPairs pairs).map Prod.fst = (pairs.map Prod.fst).eraseDups := by
  induction pairs using List.reverseRecOn with
  | nil => rfl
  | append_singleton rest pair ih =>
    obtain ⟨key, value⟩ := pair
    rw [ofPairs_concat, List.map_append, List.map_singleton, List.eraseDups_append]
    by_cases h : key ∈ rest.map Prod.fst
    · have hkeys : key ∈ (ofPairs rest).map Prod.fst := by rwa [ih, List.mem_eraseDups]
      rw [keys_insert_of_mem hkeys, ih]
      simp [List.removeAll, h]
    · have hkeys : key ∉ (ofPairs rest).map Prod.fst := by rwa [ih, List.mem_eraseDups]
      rw [insert_of_not_mem hkeys, List.map_append, ih]
      simp [List.removeAll, h, List.eraseDups_cons]

/-- The value of a key is the one that was written last. -/
theorem get?_ofPairs (pairs : List (String × Value)) (name : String) :
    get? (ofPairs pairs) name = get? pairs.reverse name := by
  induction pairs using List.reverseRecOn with
  | nil => rfl
  | append_singleton rest pair ih =>
    rw [ofPairs_concat, get?_insert, List.reverse_concat, get?_cons, ih]

theorem ofPairs_eq_self_iff {pairs : List (String × Value)} :
    ofPairs pairs = pairs ↔ (pairs.map Prod.fst).Nodup := by
  constructor
  · intro h
    rw [← h]
    exact (ofPairs_spec pairs).1
  · intro h
    induction pairs using List.reverseRecOn with
    | nil => rfl
    | append_singleton rest pair ih =>
      rw [List.map_append, List.map_singleton, List.nodup_append] at h
      obtain ⟨hrest, -, hne⟩ := h
      rw [ofPairs_concat, ih hrest, insert_of_not_mem]
      intro hmem
      exact hne pair.1 hmem pair.1 List.mem_cons_self rfl

/-- Distinct keys and what is found under them are all there is. -/
theorem map_keys_get? (hnodup : (entries.map Prod.fst).Nodup) :
    (entries.map Prod.fst).map (fun key ↦ (key, (get? entries key).getD .null)) = entries := by
  rw [List.map_map, List.map_congr_left, List.map_id]
  rintro ⟨key, value⟩ hmem
  simp [get?_of_mem hnodup hmem]

end Entries

/-! ## Reading -/

namespace Json

theorem distinctKeys_ofPairs {pairs : List (String × Value)}
    (h : ∀ pair ∈ pairs, pair.2.distinctKeys = true) :
    (Value.object (Entries.ofPairs pairs)).distinctKeys = true := by
  obtain ⟨hnodup, hmem⟩ := Entries.ofPairs_spec pairs
  exact Value.distinctKeys_object_iff.mpr ⟨hnodup, fun entry hentry ↦ h entry (hmem entry hentry)⟩

/-- What is read within a budget has distinct keys throughout. -/
structure ReadsDistinctKeys (budget : Nat) : Prop where
  value : ∀ cs v rest, value? budget cs = some (v, rest) → v.distinctKeys = true
  items : ∀ cs items rest, items? budget cs = some (items, rest) →
    ∀ item ∈ items, item.distinctKeys = true
  entries : ∀ cs pairs rest, entries? budget cs = some (pairs, rest) →
    ∀ pair ∈ pairs, pair.2.distinctKeys = true

section Step

variable {budget : Nat} {cs rest : List Char}

theorem ReadsDistinctKeys.value_succ (ih : ReadsDistinctKeys budget) {v : Value}
    (h : value? (budget + 1) cs = some (v, rest)) : v.distinctKeys = true := by
  rw [value?.eq_def] at h
  simp only at h
  split at h
  · obtain ⟨⟨s, _⟩, -, h⟩ := Option.bind_eq_some_iff.mp h
    cases h
    rfl
  · split at h
    · cases h
      rfl
    · obtain ⟨⟨items, _⟩, hitems, h⟩ := Option.bind_eq_some_iff.mp h
      cases h
      exact Value.distinctKeys_array_iff.mpr (ih.items _ _ _ hitems)
  · split at h
    · cases h
      rfl
    · obtain ⟨⟨pairs, _⟩, hpairs, h⟩ := Option.bind_eq_some_iff.mp h
      cases h
      exact distinctKeys_ofPairs (ih.entries _ _ _ hpairs)
  -- null, the two truth values and numbers have no entries
  all_goals
    obtain ⟨_, -, h⟩ := Option.bind_eq_some_iff.mp h
    cases h
    rfl

theorem ReadsDistinctKeys.items_succ (ih : ReadsDistinctKeys budget) {items : List Value}
    (h : items? (budget + 1) cs = some (items, rest)) :
    ∀ item ∈ items, item.distinctKeys = true := by
  rw [items?.eq_def] at h
  obtain ⟨⟨item, _⟩, hitem, h⟩ := Option.bind_eq_some_iff.mp h
  have hfirst := ih.value _ _ _ hitem
  simp only at h
  split at h
  · obtain ⟨⟨more, _⟩, hmore, h⟩ := Option.bind_eq_some_iff.mp h
    cases h
    exact List.forall_mem_cons.mpr ⟨hfirst, ih.items _ _ _ hmore⟩
  · cases h
    exact List.forall_mem_singleton.mpr hfirst
  · cases h

theorem ReadsDistinctKeys.entries_succ (ih : ReadsDistinctKeys budget)
    {pairs : List (String × Value)} (h : entries? (budget + 1) cs = some (pairs, rest)) :
    ∀ pair ∈ pairs, pair.2.distinctKeys = true := by
  rw [entries?.eq_def] at h
  obtain ⟨⟨key, _⟩, -, h⟩ := Option.bind_eq_some_iff.mp h
  obtain ⟨_, -, h⟩ := Option.bind_eq_some_iff.mp h
  obtain ⟨⟨item, _⟩, hitem, h⟩ := Option.bind_eq_some_iff.mp h
  have hfirst := ih.value _ _ _ hitem
  simp only at h
  split at h
  · obtain ⟨⟨more, _⟩, hmore, h⟩ := Option.bind_eq_some_iff.mp h
    cases h
    exact List.forall_mem_cons.mpr ⟨hfirst, ih.entries _ _ _ hmore⟩
  · cases h
    exact List.forall_mem_singleton.mpr hfirst
  · cases h

end Step

theorem readsDistinctKeys (budget : Nat) : ReadsDistinctKeys budget := by
  induction budget with
  | zero =>
    -- nothing is read without a budget
    exact ⟨fun _ _ _ h ↦ absurd h (by simp [value?]), fun _ _ _ h ↦ absurd h (by simp [items?]),
      fun _ _ _ h ↦ absurd h (by simp [entries?])⟩
  | succ budget ih =>
    exact ⟨fun _ _ _ ↦ ih.value_succ, fun _ _ _ ↦ ih.items_succ, fun _ _ _ ↦ ih.entries_succ⟩

end Json

/-- **Every value that is read has distinct keys throughout.** -/
theorem Value.distinctKeys_of_ofText? {text : String} {v : Value} (h : ofText? text = some v) :
    v.distinctKeys = true := by
  obtain ⟨⟨value, rest⟩, hread, h⟩ := Option.bind_eq_some_iff.mp h
  simp only at h
  split at h
  · cases h
    exact (Json.readsDistinctKeys _).value _ _ _ hread
  · cases h

end UrlCalculus
