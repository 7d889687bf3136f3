import UrlCalculus.Proofs.FieldSet.Decoding

/-!
# Field sets written and read again

A field set is written as an object that has an entry for each field that is there, and reading the
object finds each of them again, ports as what they were. Only the search parameters are written as
something else than they are: a list of pairs may repeat a name, and an object may not. What comes
back has each name once, where it stood first, with the value that stood last.
-/

namespace UrlCalculus

namespace FieldSet

/-! ## Search parameters as an object -/

/-- Each name once, where it stands first, with the value that stands last. -/
def lastOfEach (pairs : List (String × String)) : List (String × String) :=
  (pairs.map Prod.fst).eraseDups.map fun name ↦ (name, (pairs.reverse.lookup name).getD "")

/-- The name of a pair is found from the end as well. -/
theorem exists_lookup_reverse {pairs : List (String × String)} {name : String}
    (h : name ∈ pairs.map Prod.fst) : ∃ value, pairs.reverse.lookup name = some value := by
  rw [← Option.isSome_iff_exists, List.lookup_isSome_iff]
  obtain ⟨pair, hpair, rfl⟩ := List.mem_map.mp h
  exact ⟨pair, List.mem_reverse.mpr hpair, beq_self_eq_true _⟩

theorem paramsValue_eq (pairs : List (String × String)) :
    paramsValue pairs = pairsValue (lastOfEach pairs) := by
  rw [paramsValue, pairsValue, ← Entries.map_keys_get? (Entries.ofPairs_spec _).1,
    Entries.keys_ofPairs, lastOfEach, List.map_map, List.map_map]
  refine congrArg Value.object (List.map_congr_left fun name hname ↦ ?_)
  obtain ⟨value, hvalue⟩ := exists_lookup_reverse (List.mem_eraseDups.mp hname)
  rw [Entries.get?_ofPairs, ← List.map_reverse, Entries.get?_map_string, hvalue]
  simp [hvalue]

theorem pairsValue_injective : Function.Injective pairsValue := by
  intro pairs pairs' h
  have hdecode := decodeParams_pairsValue pairs
  rw [h, decodeParams_pairsValue] at hdecode
  exact (Except.ok.inj hdecode).symm

theorem lastOfEach_eq_self_iff {pairs : List (String × String)} :
    lastOfEach pairs = pairs ↔ (pairs.map Prod.fst).Nodup := by
  rw [← pairsValue_injective.eq_iff, ← paramsValue_eq, paramsValue, pairsValue, Value.object.injEq,
    Entries.ofPairs_eq_self_iff, List.map_map]
  rfl

/-! ## Entries of fields -/

section Entry

variable {α : Type} {name key : String} {toValue : α → Value} {field : Option α}

theorem mem_entry {e : String × Value} :
    e ∈ entry name toValue field ↔ ∃ a, field = some a ∧ e = (name, toValue a) := by
  cases field <;> simp [entry]

theorem keys_entry_sublist : ((entry name toValue field).map Prod.fst).Sublist [name] := by
  cases field with
  | none => exact List.nil_sublist _
  | some a => exact List.Sublist.refl _

theorem get?_entry :
    Entries.get? (entry name toValue field) key =
      if name = key then field.map toValue else none := by
  cases field with
  | none => simp [entry]
  | some a => simp [entry, Entries.get?_cons]

end Entry

theorem fits_texts {name : String} {field : Option String} (hname : name ∈ textNames) :
    ∀ e ∈ entry name .string field, Fits e := by
  intro e he
  obtain ⟨s, -, rfl⟩ := mem_entry.mp he
  refine ⟨fun _ ↦ ⟨s, rfl⟩, ?_, ?_⟩
  · rintro rfl
    exact absurd hname (by decide)
  · rintro rfl
    exact absurd hname (by decide)

theorem fits_port {field : Option Port} : ∀ e ∈ entry "port" Port.toValue field, Fits e := by
  intro e he
  obtain ⟨p, -, rfl⟩ := mem_entry.mp he
  refine ⟨fun hname ↦ absurd hname ?_, fun _ ↦ ⟨p, rfl⟩, fun hname ↦ absurd hname ?_⟩
  · simp [textNames, textFields]
  · simp

theorem fits_searchParams {field : Option (List (String × String))} :
    ∀ e ∈ entry "searchParams" paramsValue field, Fits e := by
  intro e he
  obtain ⟨pairs, -, rfl⟩ := mem_entry.mp he
  refine ⟨fun hname ↦ absurd hname ?_, fun hname ↦ absurd hname ?_,
    fun _ ↦ ⟨lastOfEach pairs, paramsValue_eq pairs⟩⟩
  · simp [textNames, textFields]
  · simp

/-- Nothing is lost in a field whose values are read as they were written. -/
theorem bind_decode_map {α : Type} {decode : Decoder α} {toValue : α → Value}
    (h : ∀ a, decode (toValue a) = .ok a) (field : Option α) :
    ((field.map toValue).bind fun v ↦ (decode v).toOption) = field := by
  cases field with
  | none => rfl
  | some a => rw [Option.map_some, Option.bind_some, h, Except.toOption]

/-! ## The whole object -/

variable {f : FieldSet} {entries : Entries}

/-- No field is written twice. -/
theorem nodup_of_toValue (h : f.toValue = .object entries) : (entries.map Prod.fst).Nodup := by
  have hsub : (entries.map Prod.fst).Sublist (["protocol"] ++ ["username"] ++ ["password"] ++
      ["host"] ++ ["hostname"] ++ ["port"] ++ ["pathname"] ++ ["search"] ++ ["searchParams"] ++
      ["hash"]) := by
    cases h
    simp only [List.map_append]
    iterate 9 refine List.Sublist.append ?_ keys_entry_sublist
    exact keys_entry_sublist
  exact hsub.nodup (by decide)

theorem fits_of_toValue (h : f.toValue = .object entries) : ∀ e ∈ entries, Fits e := by
  cases h
  simp only [List.forall_mem_append, and_assoc]
  exact ⟨fits_texts (by decide), fits_texts (by decide), fits_texts (by decide),
    fits_texts (by decide), fits_texts (by decide), fits_port, fits_texts (by decide),
    fits_texts (by decide), fits_searchParams, fits_texts (by decide)⟩

theorem ofEntries_of_toValue (h : f.toValue = .object entries) :
    ofEntries entries = { f with searchParams := f.searchParams.map lastOfEach } := by
  have htext (field : Option String) :
      ((field.map .string).bind fun v ↦ (Decoder.string v).toOption) = field :=
    bind_decode_map (fun _ ↦ string_eq_ok_iff.mpr rfl) field
  have hport : ((f.port.map Port.toValue).bind fun v ↦ (Port.decode v).toOption) = f.port :=
    bind_decode_map (fun _ ↦ portDecode_eq_ok_iff.mpr rfl) f.port
  have hparams : ((f.searchParams.map paramsValue).bind fun v ↦ (decodeParams v).toOption) =
      f.searchParams.map lastOfEach := by
    have hread := bind_decode_map decodeParams_pairsValue (f.searchParams.map lastOfEach)
    rw [Option.map_map] at hread
    rw [funext paramsValue_eq]
    exact hread
  cases h
  simp [ofEntries, readAt, Entries.get?_append, get?_entry, htext, hport, hparams]

theorem map_lastOfEach_eq_self_iff {params : Option (List (String × String))} :
    params.map lastOfEach = params ↔
      ∀ pairs, params = some pairs → (pairs.map Prod.fst).Nodup := by
  cases params with
  | none => simp
  | some pairs => simp [lastOfEach_eq_self_iff]

/-- **A field set that is written and read again is the same**, but for the search parameters with
a repeated name. -/
theorem decode_toValue (f : FieldSet) :
    decode f.toValue = .ok { f with searchParams := f.searchParams.map lastOfEach } ∧
      (decode f.toValue = .ok f ↔
        ∀ pairs, f.searchParams = some pairs → (pairs.map Prod.fst).Nodup) := by
  obtain ⟨entries, hentries⟩ : ∃ entries, f.toValue = .object entries := ⟨_, rfl⟩
  have hdecode : decode f.toValue =
      .ok { f with searchParams := f.searchParams.map lastOfEach } := by
    rw [hentries, ← ofEntries_of_toValue hentries]
    exact foldlM_readEntry [] entries (nodup_of_toValue hentries) (fits_of_toValue hentries)
  refine ⟨hdecode, ?_⟩
  rw [hdecode, Except.ok.injEq, ← map_lastOfEach_eq_self_iff]
  constructor
  · intro h
    exact congrArg searchParams h
  · intro h
    rw [h]

/-- A name that two pairs have. -/
theorem decode_toValue_repeated :
    let f := (empty.withSearchParam "a" "1").withSearchParam "a" "2"
    decode f.toValue = .ok (empty.withSearchParam "a" "2") ∧ decode f.toValue ≠ .ok f := by
  intro f
  have hdecode : decode f.toValue = .ok (empty.withSearchParam "a" "2") := rfl
  refine ⟨hdecode, ?_⟩
  rw [hdecode, Ne, Except.ok.injEq]
  decide

end FieldSet

end UrlCalculus
