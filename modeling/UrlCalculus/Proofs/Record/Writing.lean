import Mathlib.Data.List.Nodup
import UrlCalculus.Proofs.FieldSet.Decoding
import UrlCalculus.Proofs.Outcome
import UrlCalculus.Proofs.SearchParams
import UrlCalculus.Proofs.Text.ByteOrder
import UrlCalculus.Record

/-!
# Records written and read again

A record is written as an object with an entry for each of its fields, in the order of declaration,
and with its search parameters as an object of their own, in the order of their bytes. Reading does
not ask for an order, and passes over entries with other names, so a record is read back from every
object that shows it. An object that is read shows what was read: its entries with the names of
fields are those of the record, but for the order.

So the object that is written is determined by what any object of the same record shows, and nothing
of a field is lost or added on the way.
-/

namespace UrlCalculus

/-- Pairs of texts as entries. -/
def textEntries (pairs : List (String × String)) : Entries :=
  pairs.map fun (name, value) ↦ (name, .string value)

theorem textEntry_injective :
    Function.Injective fun pair : String × String ↦ (pair.1, Value.string pair.2) := by
  rintro ⟨name, value⟩ ⟨name', value'⟩ h
  cases h
  rfl

theorem keys_textEntries (pairs : List (String × String)) :
    (textEntries pairs).map Prod.fst = pairs.map Prod.fst := by
  rw [textEntries, List.map_map]
  rfl

theorem Entries.get?_eq_some_of_unique {entries : Entries} {key : String} {value : Value}
    (hmem : (key, value) ∈ entries) (hunique : ∀ v, (key, v) ∈ entries → v = value) :
    get? entries key = some value := by
  cases hget : get? entries key with
  | some v => rw [hunique v (mem_of_get? hget)]
  | none =>
    rw [get?, Option.map_eq_none_iff, List.find?_eq_none] at hget
    exact absurd (beq_self_eq_true key) (hget _ hmem)

namespace Record

variable {r : Record} {params others entries : Entries} {p : SearchParams}

/-! ## Search parameters -/

section FoldM

variable {q : SearchParams}

/-- Reading the entries of an object one after the other, as `decodeParams` does. -/
def readEntries (p : SearchParams) (entries : Entries) : Except DecodeError SearchParams :=
  entries.foldlM (fun p (name, value) ↦ do return p.insert name (← Decoder.string value)) p

theorem readEntries_textEntries (p : SearchParams) (pairs : List (String × String)) :
    readEntries p (textEntries pairs) = .ok (p.insertAll pairs) := by
  induction pairs generalizing p with
  | nil => rfl
  | cons pair rest ih => exact ih (p.insert pair.1 pair.2)

/-- Only entries that are texts are read. -/
theorem exists_textEntries_of_readEntries (h : readEntries p entries = .ok q) :
    ∃ pairs, entries = textEntries pairs := by
  induction entries generalizing p with
  | nil => exact ⟨[], rfl⟩
  | cons entry rest ih =>
    obtain ⟨name, value⟩ := entry
    rw [readEntries, List.foldlM_cons] at h
    obtain ⟨p', hp', hrest⟩ := bind_eq_ok_iff.mp h
    obtain ⟨s, hs, -⟩ := bind_eq_ok_iff.mp hp'
    obtain rfl := FieldSet.string_eq_ok_iff.mp hs
    obtain ⟨pairs, rfl⟩ := ih hrest
    exact ⟨(name, s) :: pairs, rfl⟩

end FoldM

theorem decodeParams_textEntries_eq_ok_iff {pairs : List (String × String)}
    (hnodup : (pairs.map Prod.fst).Nodup) :
    decodeParams (.object (textEntries pairs)) = .ok p ↔ pairs.Perm p.entries := by
  have hperm : (SearchParams.empty.insertAll pairs).entries.Perm pairs :=
    SearchParams.insertAll_perm hnodup
  change readEntries .empty (textEntries pairs) = .ok p ↔ _
  rw [readEntries_textEntries, Except.ok.injEq]
  constructor
  · rintro rfl
    exact hperm.symm
  · intro h
    exact SearchParams.eq_of_perm (hperm.trans h)

/-- **An object is read as the search parameters whose entries it has**, in any order. -/
theorem decodeParams_eq_ok_iff (hnodup : (params.map Prod.fst).Nodup) :
    decodeParams (.object params) = .ok p ↔ params.Perm (textEntries p.entries) := by
  have hiff : (∃ pairs, params = textEntries pairs) →
      (decodeParams (.object params) = .ok p ↔ params.Perm (textEntries p.entries)) := by
    rintro ⟨pairs, rfl⟩
    rw [keys_textEntries] at hnodup
    rw [decodeParams_textEntries_eq_ok_iff hnodup]
    exact (List.map_perm_map_iff textEntry_injective).symm
  constructor
  · intro h
    exact (hiff (exists_textEntries_of_readEntries h)).mp h
  · intro h
    have htexts : ∀ entry ∈ params, ∃ s, entry.2 = .string s := by
      intro entry hentry
      obtain ⟨pair, -, rfl⟩ := List.mem_map.mp (h.mem_iff.mp hentry)
      exact ⟨pair.2, rfl⟩
    obtain ⟨pairs, heq⟩ := FieldSet.exists_pairsValue htexts
    exact (hiff ⟨pairs, Value.object.inj heq⟩).mpr h

/-! ## Fields -/

/-- The entries of a record, in the order of declaration, with given entries for its search
parameters. -/
def fields (r : Record) (params : Entries) : Entries :=
  [ ("href", .string r.href), ("origin", .string r.origin), ("protocol", .string r.protocol),
    ("username", .string r.username), ("password", .string r.password), ("host", .string r.host),
    ("hostname", .string r.hostname), ("port", .string r.port), ("pathname", .string r.pathname),
    ("search", .string r.search), ("searchParams", .object params), ("hash", .string r.hash) ]

theorem toValue_eq (r : Record) :
    r.toValue = .object (r.fields (textEntries r.searchParams.entries)) := rfl

theorem keys_fields (r : Record) (params : Entries) :
    (r.fields params).map Prod.fst = fieldNames := rfl

/-! ## Reading an object -/

theorem field_eq_ok_iff {name : String} {v : Value} :
    field entries name = .ok v ↔ Entries.get? entries name = some v := by
  rw [field]
  cases Entries.get? entries name with
  | none => simp
  | some v => simp

theorem textField_eq_ok_iff {name s : String} :
    textField entries name = .ok s ↔ Entries.get? entries name = some (.string s) := by
  simp only [textField, bind_eq_ok_iff, field_eq_ok_iff, FieldSet.string_eq_ok_iff,
    exists_eq_right]

theorem paramsField_eq_ok_iff :
    (field entries "searchParams" >>= decodeParams) = .ok p ↔
      ∃ params, Entries.get? entries "searchParams" = some (.object params) ∧
        decodeParams (.object params) = .ok p := by
  simp only [bind_eq_ok_iff, field_eq_ok_iff]
  constructor
  · rintro ⟨v, hv, hp⟩
    cases v with
    | object params => exact ⟨params, hv, hp⟩
    | _ => cases hp
  · rintro ⟨params, hget, hp⟩
    exact ⟨_, hget, hp⟩

/-- A record is read from an object when nothing is wrong with any entry and the fields of the
record are found under their names. -/
theorem ofEntries_eq_ok_iff :
    ofEntries entries = .ok r ↔ (∀ e ∈ entries, checkEntry e = .ok ()) ∧
      ∃ params, decodeParams (.object params) = .ok r.searchParams ∧
        ∀ e ∈ r.fields params, Entries.get? entries e.1 = some e.2 := by
  cases r
  simp only [ofEntries, forM_eq_ok_iff, check_bind_eq_ok_iff, bind_eq_ok_iff (r := textField _ _),
    bind_eq_ok_iff (r := _ >>= decodeParams), textField_eq_ok_iff, paramsField_eq_ok_iff,
    pure_eq_ok, Except.ok.injEq, Record.mk.injEq, fields, List.forall_mem_cons]
  refine and_congr_right fun _ ↦ ?_
  constructor
  · rintro ⟨href, hhref, origin, horigin, protocol, hprotocol, username, husername, password,
      hpassword, host, hhost, hostname, hhostname, port, hport, pathname, hpathname, search,
      hsearch, p, ⟨params, hget, hp⟩, hash, hhash, hfields⟩
    exact ⟨params, by simp_all⟩
  · rintro ⟨params, hp, hfields⟩
    simp_all

theorem checkEntry_string {name : String} (hname : name ≠ "searchParams") (s : String) :
    checkEntry (name, .string s) = .ok () := by
  rw [checkEntry, if_neg hname]
  split <;> rfl

theorem checkEntry_other {e : String × Value} (h : e.1 ∉ fieldNames) : checkEntry e = .ok () := by
  have hne : e.1 ≠ "searchParams" := by
    intro heq
    exact h (heq ▸ by decide)
  rw [checkEntry, if_neg hne, if_neg h]

/-- Nothing is wrong with the entries of a record. -/
theorem checkEntry_of_mem_fields (hparams : decodeParams (.object params) = .ok r.searchParams) :
    ∀ e ∈ r.fields params, checkEntry e = .ok () := by
  have hentry : checkEntry ("searchParams", .object params) = .ok () := by
    rw [checkEntry, if_pos rfl, hparams]
    rfl
  simp [fields, checkEntry_string, hentry]

/-! ## Objects that show a record -/

/-- An object shows a record. Among its entries, in any order, are the fields of the record, with
the search parameters in any order, and all others have other names. -/
def ShownBy (r : Record) (entries : Entries) : Prop :=
  ∃ params others, params.Perm (textEntries r.searchParams.entries) ∧
    (∀ e ∈ others, e.1 ∉ fieldNames) ∧ entries.Perm (r.fields params ++ others)

theorem mem_fieldNames_of_mem_fields {e : String × Value} (h : e ∈ r.fields params) :
    e.1 ∈ fieldNames := by
  rw [← keys_fields r params]
  exact List.mem_map_of_mem h

theorem nodup_keys_fields (r : Record) (params : Entries) :
    ((r.fields params).map Prod.fst).Nodup := by
  rw [keys_fields]
  decide

/-- The search parameters are written in the order of the bytes of their names. -/
theorem pairwise_textEntries (p : SearchParams) :
    (textEntries p.entries).Pairwise fun a b ↦
      Text.utf8 a.1.toList < Text.utf8 b.1.toList := by
  rw [textEntries, List.pairwise_map]
  exact p.sorted.imp fun hlt ↦ Text.utf8_lt_utf8 (String.lt_iff.mp hlt)

/-- **A record is read from every object that shows it.** -/
theorem ShownBy.decode_eq_ok (h : r.ShownBy entries) : decode (.object entries) = .ok r := by
  obtain ⟨params, others, hparams, hothers, hentries⟩ := h
  have hnodup : (params.map Prod.fst).Nodup := by
    rw [(hparams.map Prod.fst).nodup_iff, keys_textEntries]
    exact r.searchParams.nodup_names
  have hdecode := (decodeParams_eq_ok_iff hnodup).mpr hparams
  refine ofEntries_eq_ok_iff.mpr ⟨?_, params, hdecode, ?_⟩
  · intro e he
    rcases List.mem_append.mp (hentries.mem_iff.mp he) with he | he
    · exact checkEntry_of_mem_fields hdecode e he
    · exact checkEntry_other (hothers e he)
  · rintro ⟨name, value⟩ he
    refine Entries.get?_eq_some_of_unique
      (hentries.mem_iff.mpr (List.mem_append_left others he)) fun v hv ↦ ?_
    -- the only entry with the name of a field is that field
    rcases List.mem_append.mp (hentries.mem_iff.mp hv) with hv | hv
    · have hget := Entries.get?_of_mem (nodup_keys_fields r params) he
      rw [Entries.get?_of_mem (nodup_keys_fields r params) hv] at hget
      exact Option.some.inj hget
    · exact absurd (mem_fieldNames_of_mem_fields he) (hothers (name, v) hv)

/-- **The known entries of an object are the fields of the record that is read from it.** -/
theorem filter_perm_of_decode (hdistinct : (Value.object entries).distinctKeys = true)
    (h : decode (.object entries) = .ok r) :
    ∃ params, params.Perm (textEntries r.searchParams.entries) ∧
      (entries.filter fun e ↦ e.1 ∈ fieldNames).Perm (r.fields params) := by
  obtain ⟨hnodup, hvalues⟩ := Value.distinctKeys_object_iff.mp hdistinct
  obtain ⟨-, params, hdecode, hfields⟩ := ofEntries_eq_ok_iff.mp h
  have hmem : ∀ e ∈ r.fields params, e ∈ entries := fun e he ↦ Entries.mem_of_get? (hfields e he)
  have hparams : (params.map Prod.fst).Nodup := by
    have hentry : ("searchParams", Value.object params) ∈ r.fields params := by simp [fields]
    exact (Value.distinctKeys_object_iff.mp (hvalues _ (hmem _ hentry))).1
  have hentries : entries.Nodup := List.Nodup.of_map Prod.fst hnodup
  have hfieldsNodup : (r.fields params).Nodup :=
    List.Nodup.of_map Prod.fst (nodup_keys_fields r params)
  refine ⟨params, (decodeParams_eq_ok_iff hparams).mp hdecode, ?_⟩
  rw [List.perm_ext_iff_of_nodup (hentries.filter _) hfieldsNodup]
  rintro ⟨name, value⟩
  rw [List.mem_filter, decide_eq_true_eq]
  constructor
  · rintro ⟨hentry, hname⟩
    rw [← keys_fields r params] at hname
    obtain ⟨e, he, rfl⟩ := List.mem_map.mp hname
    have hget := hfields e he
    rw [Entries.get?_of_mem hnodup hentry] at hget
    rwa [Option.some.inj hget]
  · intro he
    exact ⟨hmem _ he, mem_fieldNames_of_mem_fields he⟩

/-- **Records are read back from what shows them, and written as what they were read from.** A
record is read from every object with its fields in any order, its search parameters in any order and
any further entries. The other way round, the known entries of an object with distinct keys are the
fields of the record that is read from it; the record is written with these in the order of
declaration, and its search parameters in strictly ascending order of the bytes of their names. -/
theorem decode_of_shownBy_and_perm_toValue :
    (∀ r entries, ShownBy r entries → decode (.object entries) = .ok r) ∧
    ∀ r entries, (Value.object entries).distinctKeys = true → decode (.object entries) = .ok r →
      ∃ sorted params, r.toValue = .object (r.fields sorted) ∧
        (r.fields sorted).map Prod.fst = fieldNames ∧
        (sorted.Pairwise fun a b ↦ Text.utf8 a.1.toList < Text.utf8 b.1.toList) ∧
        params.Perm sorted ∧
        (entries.filter fun e ↦ e.1 ∈ fieldNames).Perm (r.fields params) := by
  refine ⟨fun _ _ h ↦ h.decode_eq_ok, fun r entries hdistinct h ↦ ?_⟩
  obtain ⟨params, hparams, hknown⟩ := filter_perm_of_decode hdistinct h
  exact ⟨textEntries r.searchParams.entries, params, r.toValue_eq, r.keys_fields _,
    pairwise_textEntries r.searchParams, hparams, hknown⟩

/-- A record with two search parameters. -/
def twoParameters : Record :=
  { empty with
    href := "x:?ä=1&~"
    searchParams := (SearchParams.empty.insert "ä" "1").insert "~" "" }

/-- Its fields from the last to the first, the search parameters in the order of the query, and a
further entry. -/
def twoParametersReversed : Entries :=
  ("more", .null) ::
    (twoParameters.fields [("ä", .string "1"), ("~", .string "")]).reverse

theorem decode_twoParametersReversed :
    decode (.object twoParametersReversed) = .ok twoParameters ∧
      (Value.object twoParametersReversed).distinctKeys = true ∧
      ∃ sorted params, twoParameters.toValue = .object (twoParameters.fields sorted) ∧
        (twoParameters.fields sorted).map Prod.fst = fieldNames ∧
        (sorted.Pairwise fun a b ↦ Text.utf8 a.1.toList < Text.utf8 b.1.toList) ∧
        params.Perm sorted ∧
        (twoParametersReversed.filter fun e ↦ e.1 ∈ fieldNames).Perm
          (twoParameters.fields params) := by
  obtain ⟨hread, hwritten⟩ := decode_of_shownBy_and_perm_toValue
  have hdistinct : (Value.object twoParametersReversed).distinctKeys = true := by decide
  have hshown : twoParameters.ShownBy twoParametersReversed := by
    refine ⟨[("ä", .string "1"), ("~", .string "")], [("more", .null)], .swap _ _ _, by decide, ?_⟩
    rw [twoParametersReversed, ← List.singleton_append]
    exact List.perm_append_comm.trans ((List.reverse_perm _).append_right _)
  have hdecode := hread _ _ hshown
  exact ⟨hdecode, hdistinct, hwritten _ _ hdistinct hdecode⟩

end Record

end UrlCalculus
