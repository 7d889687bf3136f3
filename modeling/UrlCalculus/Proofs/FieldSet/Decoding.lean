import UrlCalculus.Expr.UrlOperations
import UrlCalculus.Proofs.Json.DistinctKeys
import UrlCalculus.Proofs.Spec

/-!
# Field sets that were checked

What a field set has to look like is said twice: by the spec that arguments are checked against, and
by the decoder that reads them. The decoder takes more, since it reads null as absence and writes
out scalars, but it takes everything that the spec lets through. So an operation on field sets never
fails to read what it was given.

A field set read from an object is what look-up by name finds there. Reading goes through the
entries in their order, and the field set read so far is always that of the entries passed; this is
where the keys have to be distinct, since a later entry would overwrite an earlier one.
-/

namespace UrlCalculus

namespace FieldSet

/-! ## Look-up by name -/

/-- The fields that are texts. -/
def textFields : List (String × (FieldSet → Option String)) :=
  [ ("protocol", protocol), ("username", username), ("password", password), ("host", host),
    ("hostname", hostname), ("pathname", pathname), ("search", search), ("hash", hash) ]

/-- Search parameters as an object with an entry for each pair. -/
def pairsValue (pairs : List (String × String)) : Value :=
  .object (pairs.map fun (name, value) ↦ (name, .string value))

/-- A field set is what an object shows: a field is there exactly when its name is, with a value of
its kind, and it is that value. -/
structure Shows (f : FieldSet) (entries : Entries) : Prop where
  text : ∀ field ∈ textFields, ∀ s,
    field.2 f = some s ↔ Entries.get? entries field.1 = some (.string s)
  port : ∀ p : Port, f.port = some p ↔ Entries.get? entries "port" = some p.toValue
  searchParams : ∀ pairs,
    f.searchParams = some pairs ↔ Entries.get? entries "searchParams" = some (pairsValue pairs)

/-- What is read from the value under a key. -/
def readAt {α : Type} (decode : Decoder α) (entries : Entries) (name : String) : Option α :=
  (Entries.get? entries name).bind fun v ↦ (decode v).toOption

/-- The field set of entries, field by field. -/
def ofEntries (entries : Entries) : FieldSet where
  protocol := readAt .string entries "protocol"
  username := readAt .string entries "username"
  password := readAt .string entries "password"
  host := readAt .string entries "host"
  hostname := readAt .string entries "hostname"
  port := readAt Port.decode entries "port"
  pathname := readAt .string entries "pathname"
  search := readAt .string entries "search"
  searchParams := readAt decodeParams entries "searchParams"
  hash := readAt .string entries "hash"

/-! ## Reading values -/

theorem string_eq_ok_iff {v : Value} {s : String} : Decoder.string v = .ok s ↔ v = .string s := by
  cases v <;> simp [Decoder.string]

theorem portDecode_eq_ok_iff {v : Value} {p : Port} : Port.decode v = .ok p ↔ v = p.toValue := by
  cases v <;> cases p <;> simp [Port.decode, Port.toValue]

theorem decodeParams_pairsValue (pairs : List (String × String)) :
    decodeParams (pairsValue pairs) = .ok pairs := by
  rw [pairsValue, decodeParams]
  induction pairs with
  | nil => rfl
  | cons pair rest ih =>
    rw [List.map_cons, List.mapM_cons, ih]
    rfl

theorem exists_pairsValue {entries : Entries} (h : ∀ entry ∈ entries, ∃ s, entry.2 = .string s) :
    ∃ pairs, Value.object entries = pairsValue pairs := by
  induction entries with
  | nil => exact ⟨[], rfl⟩
  | cons entry rest ih =>
    obtain ⟨⟨s, hs⟩, hrest⟩ := List.forall_mem_cons.mp h
    obtain ⟨pairs, hpairs⟩ := ih hrest
    obtain ⟨name, v⟩ := entry
    obtain rfl : v = .string s := hs
    refine ⟨(name, s) :: pairs, ?_⟩
    rw [pairsValue, Value.object.injEq] at hpairs ⊢
    rw [hpairs, List.map_cons]

section ReadAt

variable {α : Type} {decode : Decoder α} {entries : Entries} {name : String} {value : Value}

theorem toOption_eq_some_iff {ε : Type} {r : Except ε α} {a : α} :
    r.toOption = some a ↔ r = .ok a := by
  cases r <;> simp [Except.toOption]

theorem readAt_eq_some_iff {a : α} :
    readAt decode entries name = some a ↔
      ∃ v, Entries.get? entries name = some v ∧ decode v = .ok a := by
  simp only [readAt, Option.bind_eq_some_iff, toOption_eq_some_iff]

theorem readAt_concat_self {a : α} (hnew : Entries.get? entries name = none)
    (hvalue : decode value = .ok a) : readAt decode (entries ++ [(name, value)]) name = some a := by
  rw [readAt_eq_some_iff, Entries.get?_append_of_eq_none hnew, Entries.get?_cons, if_pos rfl]
  exact ⟨value, rfl, hvalue⟩

theorem readAt_concat_of_ne {other : String} (h : name ≠ other) :
    readAt decode (entries ++ [(name, value)]) other = readAt decode entries other := by
  rw [readAt, Entries.get?_concat_of_ne h, readAt]

end ReadAt

/-! ## Values that fit their fields -/

def textNames : List String := textFields.map Prod.fst

/-- The value of an entry is of the kind of the field with that name, if there is such a field. -/
structure Fits (entry : String × Value) : Prop where
  text : entry.1 ∈ textNames → ∃ s, entry.2 = .string s
  port : entry.1 = "port" → ∃ p : Port, entry.2 = p.toValue
  searchParams : entry.1 = "searchParams" → ∃ pairs, entry.2 = pairsValue pairs

theorem port_of_check {value : Option Value}
    (h : Spec.check (.oneOf [.string, .number, .undefined]) value = .ok ()) :
    value = none ∨ ∃ p : Port, value = some p.toValue := by
  simp only [Spec.check_oneOf_eq_ok_iff, List.mem_cons, List.not_mem_nil, or_false,
    exists_eq_or_imp, exists_eq_left, Spec.check_string_eq_ok_iff, Spec.check_number_eq_ok_iff,
    Spec.check_undefined_eq_ok_iff] at h
  rcases h with ⟨s, hs⟩ | ⟨n, hn⟩ | hnone
  · exact .inr ⟨.text s, hs⟩
  · exact .inr ⟨.number n, hn⟩
  · exact .inl hnone

theorem searchParams_of_check {value : Option Value}
    (h : (Spec.objectOf .string).optional.check value = .ok ()) :
    value = none ∨ ∃ pairs, value = some (pairsValue pairs) := by
  rw [Spec.check_optional_eq_ok_iff, Spec.check_objectOf_eq_ok_iff] at h
  rcases h with ⟨entries, rfl, hentries⟩ | hnone
  · obtain ⟨pairs, hpairs⟩ := exists_pairsValue fun entry hentry ↦ by
      simpa [Spec.check_string_eq_ok_iff] using hentries entry hentry
    exact .inr ⟨pairs, congrArg some hpairs⟩
  · exact .inl hnone

/-- What the spec says of each field. -/
theorem check_fieldSetSpec_eq_ok_iff {value : Option Value} :
    UrlOperation.fieldSetSpec.check value = .ok () ↔
      ∃ entries, value = some (.object entries) ∧
        (∀ name ∈ textNames, Spec.string.optional.check (Entries.get? entries name) = .ok ()) ∧
        Spec.check (.oneOf [.string, .number, .undefined]) (Entries.get? entries "port") = .ok () ∧
        (Spec.objectOf .string).optional.check (Entries.get? entries "searchParams") = .ok () := by
  rw [UrlOperation.fieldSetSpec, Spec.check_object_eq_ok_iff]
  simp only [textNames, textFields, List.map_cons, List.map_nil, List.forall_mem_cons,
    List.not_mem_nil, false_implies, implies_true, and_true]
  grind

theorem text_of_check {value : Option Value} (h : Spec.string.optional.check value = .ok ()) :
    value = none ∨ ∃ s, value = some (.string s) := by
  rw [Spec.check_optional_eq_ok_iff, Spec.check_string_eq_ok_iff] at h
  exact h.symm

theorem fits_of_check {entries : Entries} (hnodup : (entries.map Prod.fst).Nodup)
    (hcheck : UrlOperation.fieldSetSpec.check (some (.object entries)) = .ok ()) :
    ∀ entry ∈ entries, Fits entry := by
  rintro ⟨name, value⟩ hmem
  have hget := Entries.get?_of_mem hnodup hmem
  obtain ⟨_, heq, htext, hport, hparams⟩ := check_fieldSetSpec_eq_ok_iff.mp hcheck
  cases heq
  refine ⟨fun hname ↦ ?_, ?_, ?_⟩
  · simpa [hget] using text_of_check (htext name hname)
  · rintro rfl
    simpa [hget] using port_of_check hport
  · rintro rfl
    simpa [hget] using searchParams_of_check hparams

/-! ## Reading entry by entry -/

theorem optional_of_ok {α : Type} {decode : Decoder α} {value : Value} {a : α}
    (hnull : value ≠ .null) (h : decode value = .ok a) :
    Decoder.optional decode value = .ok (some a) := by
  rw [Decoder.optional.eq_2 decode value hnull, h]
  rfl

/-- Reading an entry behind others adds it to the field set of those. -/
theorem readEntry_ofEntries {entries : Entries} {entry : String × Value} (hfits : Fits entry)
    (hnew : Entries.get? entries entry.1 = none) :
    readEntry (ofEntries entries) entry = .ok (ofEntries (entries ++ [entry])) := by
  obtain ⟨name, value⟩ := entry
  have hself {α : Type} {decode : Decoder α} {a : α} (h : decode value = .ok a) :
      readAt decode (entries ++ [(name, value)]) name = some a := readAt_concat_self hnew h
  have hother {α : Type} {decode : Decoder α} {other : String} (h : name ≠ other) :
      readAt decode (entries ++ [(name, value)]) other = readAt decode entries other :=
    readAt_concat_of_ne h
  by_cases htext : name ∈ textNames
  · obtain ⟨s, rfl⟩ := hfits.text htext
    have hvalue := string_eq_ok_iff.mpr (rfl : Value.string s = .string s)
    have hread := hself hvalue
    have hdecode := optional_of_ok Value.noConfusion hvalue
    simp only [textNames, textFields, List.map_cons, List.map_nil, List.mem_cons,
      List.not_mem_nil, or_false] at htext
    rcases htext with rfl | rfl | rfl | rfl | rfl | rfl | rfl | rfl <;>
      simp [readEntry, ofEntries, hdecode, Except.map, hread, hother]
  by_cases hport : name = "port"
  · subst hport
    obtain ⟨p, rfl⟩ := hfits.port rfl
    have hvalue := portDecode_eq_ok_iff.mpr (rfl : p.toValue = p.toValue)
    have hread := hself hvalue
    have hdecode := optional_of_ok (by cases p <;> exact Value.noConfusion) hvalue
    simp [readEntry, ofEntries, hdecode, Except.map, hread, hother]
  by_cases hparams : name = "searchParams"
  · subst hparams
    obtain ⟨pairs, rfl⟩ := hfits.searchParams rfl
    have hvalue := decodeParams_pairsValue pairs
    have hread := hself hvalue
    have hdecode := optional_of_ok Value.noConfusion hvalue
    simp [readEntry, ofEntries, hdecode, Except.map, hread, hother]
  · simp only [textNames, textFields, List.map_cons, List.map_nil, List.mem_cons,
      List.not_mem_nil, or_false, not_or] at htext
    simp [readEntry, ofEntries, hother, htext, hport, hparams]

/-- Reading goes on from the field set of the entries passed. -/
theorem foldlM_readEntry (passed entries : Entries)
    (hnodup : ((passed ++ entries).map Prod.fst).Nodup) (hfits : ∀ entry ∈ entries, Fits entry) :
    entries.foldlM readEntry (ofEntries passed) = .ok (ofEntries (passed ++ entries)) := by
  induction entries generalizing passed with
  | nil => rw [List.append_nil, List.foldlM_nil, pure_eq_ok]
  | cons entry rest ih =>
    obtain ⟨hentry, hrest⟩ := List.forall_mem_cons.mp hfits
    have hnew : Entries.get? passed entry.1 = none := by
      refine Entries.get?_eq_none fun hmem ↦ ?_
      rw [List.map_append, List.nodup_append, List.map_cons] at hnodup
      exact hnodup.2.2 entry.1 hmem entry.1 List.mem_cons_self rfl
    rw [List.append_cons] at hnodup ⊢
    rw [List.foldlM_cons, readEntry_ofEntries hentry hnew, ok_bind, ih _ hnodup hrest]

theorem shows_ofEntries {entries : Entries}
    (hcheck : UrlOperation.fieldSetSpec.check (some (.object entries)) = .ok ()) :
    (ofEntries entries).Shows entries where
  text := by
    have hread (name s) : readAt .string entries name = some s ↔
        Entries.get? entries name = some (.string s) := by
      simp [readAt_eq_some_iff, string_eq_ok_iff]
    simp [textFields, ofEntries, hread]
  port p := by
    simp [ofEntries, readAt_eq_some_iff, portDecode_eq_ok_iff]
  searchParams pairs := by
    obtain ⟨_, heq, -, -, hparams⟩ := check_fieldSetSpec_eq_ok_iff.mp hcheck
    cases heq
    rw [ofEntries, readAt_eq_some_iff]
    constructor
    · rintro ⟨v, hget, hdecode⟩
      rcases searchParams_of_check hparams with hnone | ⟨given, hgiven⟩
      · rw [hnone] at hget
        cases hget
      · obtain rfl : pairsValue given = v := Option.some.inj (hgiven.symm.trans hget)
        obtain rfl : given = pairs :=
          Except.ok.inj ((decodeParams_pairsValue given).symm.trans hdecode)
        exact hget
    · intro hget
      exact ⟨pairsValue pairs, hget, decodeParams_pairsValue pairs⟩

/-! ## Decoding what was checked -/

theorem decode_object_of_check {entries : Entries}
    (hdistinct : (Value.object entries).distinctKeys = true)
    (hcheck : UrlOperation.fieldSetSpec.check (some (.object entries)) = .ok ()) :
    decode (.object entries) = .ok (ofEntries entries) := by
  have hnodup := (Value.distinctKeys_object_iff.mp hdistinct).1
  exact foldlM_readEntry [] entries hnodup (fits_of_check hnodup hcheck)

theorem decode_of_check {v : Value} (hdistinct : v.distinctKeys = true)
    (hcheck : UrlOperation.fieldSetSpec.check (some v) = .ok ()) :
    ∃ entries f, v = .object entries ∧ Shows f entries ∧ decode v = .ok f := by
  obtain ⟨entries, hv, -⟩ := check_fieldSetSpec_eq_ok_iff.mp hcheck
  obtain rfl := Option.some.inj hv
  exact ⟨entries, ofEntries entries, rfl, shows_ofEntries hcheck,
    decode_object_of_check hdistinct hcheck⟩

theorem source_decode_of_check {v : Value} (hdistinct : v.distinctKeys = true)
    (hcheck : Spec.check (.oneOf [.string, UrlOperation.fieldSetSpec]) (some v) = .ok ()) :
    (∃ s, v = .string s ∧ Source.decode v = .ok (.raw s)) ∨
      ∃ entries f, v = .object entries ∧ Shows f entries ∧ decode v = .ok f ∧
        Source.decode v = .ok (.fields f) := by
  simp only [Spec.check_oneOf_eq_ok_iff, List.mem_cons, List.not_mem_nil, or_false,
    exists_eq_or_imp, exists_eq_left, Spec.check_string_eq_ok_iff, Option.some.injEq] at hcheck
  rcases hcheck with ⟨s, rfl⟩ | hcheck
  · exact .inl ⟨s, rfl, rfl⟩
  · obtain ⟨entries, f, rfl, hshows, hdecode⟩ := decode_of_check hdistinct hcheck
    refine .inr ⟨entries, f, rfl, hshows, hdecode, ?_⟩
    simp [Source.decode, hdecode]

end FieldSet

/-! ## Invoking what was checked -/

namespace Operation

/-- Invoking an operation never fails in reading its first argument: either the check of the
arguments refuses them, or the argument is read and the rest goes on with what was read. -/
def ReadsInput {α : Type} (op : Operation) (decode : Decoder α)
    (rest : α → Arguments → Evaluator → Except Error Value) : Prop :=
  ∀ (arguments : Arguments) (context : Context) (evaluator : Evaluator),
    (∀ v, argument? (op.prepare arguments context) 0 = some v → v.distinctKeys = true) →
    (∃ e, checkArguments op.name op.parameters (op.prepare arguments context) = .error e ∧
      op.invoke arguments context evaluator = .error e) ∨
    ∃ a, decode.argument op.name "input" (argument? (op.prepare arguments context) 0) = .ok a ∧
      op.invoke arguments context evaluator = rest a (op.prepare arguments context) evaluator

theorem length_le_length_prepare (op : Operation) (arguments : Arguments) (context : Context) :
    op.parameters.length ≤ (op.prepare arguments context).length := by
  have hpad : op.parameters.length ≤ (op.pad arguments).length := by
    rw [pad, List.length_append, List.length_replicate]
    omega
  rw [prepare, fillDefault]
  split
  · exact hpad
  · rwa [List.length_modify]

/-- What the check of the arguments lets through meets the specs of the parameters, place by
place. -/
theorem check_of_checkArguments {op : String} {ps : List Parameter} {arguments : Arguments}
    (hlength : ps.length ≤ arguments.length) (h : checkArguments op ps arguments = .ok ()) {i : Nat}
    {p : Parameter} (hp : ps[i]? = some p) : p.spec.check (argument? arguments i) = .ok () := by
  induction ps generalizing arguments i with
  | nil => cases hp
  | cons first ps ih =>
    cases arguments with
    | nil => cases hlength
    | cons argument rest =>
      rw [checkArguments, check_bind_eq_ok_iff, mapError_eq_ok_iff, Spec.checkArgument,
        mapError_eq_ok_iff] at h
      cases i with
      | zero =>
        cases hp
        exact h.1
      | succ i => exact ih (Nat.le_of_succ_le_succ hlength) h.2 hp

theorem readsInput_of_check {α : Type} {op : Operation} {p : Parameter} {ps : List Parameter}
    {decode : Decoder α} {rest : α → Arguments → Evaluator → Except Error Value}
    (hparameters : op.parameters = p :: ps)
    (hhandler : ∀ arguments context evaluator, op.handler arguments context evaluator =
      decode.argument op.name "input" (argument? arguments 0) >>= fun a ↦
        rest a arguments evaluator)
    (hdecode : ∀ value : Option Value, (∀ v, value = some v → v.distinctKeys = true) →
      p.spec.check value = .ok () → ∃ a, decode (value.getD .null) = .ok a) :
    op.ReadsInput decode rest := by
  intro arguments context evaluator hdistinct
  rw [invoke]
  cases hchecked : checkArguments op.name op.parameters (op.prepare arguments context) with
  | error e => exact .inl ⟨e, rfl, rfl⟩
  | ok _ =>
    have hlength := op.length_le_length_prepare arguments context
    rw [hparameters] at hchecked hlength
    obtain ⟨a, ha⟩ := hdecode _ hdistinct (check_of_checkArguments hlength hchecked rfl)
    have hargument : decode.argument op.name "input"
        (argument? (op.prepare arguments context) 0) = .ok a := by
      rw [Decoder.argument, ha, mapError_ok]
    refine .inr ⟨a, hargument, ?_⟩
    rw [ok_bind, hhandler, hargument, ok_bind]

end Operation

namespace UrlOperation

theorem readsInput_url {op : Operation} (h : op ∈ operations) (hname : op.name = urlName) :
    op.ReadsInput Source.decode fun source arguments evaluator ↦ do
      return .string (← source.href (stringArgument? arguments 1) evaluator.defaultBase) := by
  simp only [operations, List.mem_cons, List.not_mem_nil, or_false] at h
  rcases h with rfl | rfl | rfl | rfl
  · refine Operation.readsInput_of_check rfl (fun _ _ _ ↦ rfl) fun value hdistinct hcheck ↦ ?_
    cases value with
    | none =>
      simp [Spec.check_oneOf_eq_ok_iff, Spec.check_string_eq_ok_iff,
        FieldSet.check_fieldSetSpec_eq_ok_iff] at hcheck
    | some v =>
      rcases FieldSet.source_decode_of_check (hdistinct v rfl) hcheck with
        ⟨s, -, hdecode⟩ | ⟨_, f, -, -, -, hdecode⟩
      · exact ⟨_, hdecode⟩
      · exact ⟨_, hdecode⟩
  all_goals exact absurd hname (by decide)

theorem readsInput_set {op : Operation} (h : op ∈ operations) (hname : op.name = setName) :
    op.ReadsInput FieldSet.decode fun f arguments _ ↦ do
      return .string (← f.update ((stringArgument? arguments 1).getD "")) := by
  simp only [operations, List.mem_cons, List.not_mem_nil, or_false] at h
  rcases h with rfl | rfl | rfl | rfl
  case' inr.inr.inr =>
    refine Operation.readsInput_of_check rfl (fun _ _ _ ↦ rfl) fun value hdistinct hcheck ↦ ?_
    cases value with
    | none => simp [FieldSet.check_fieldSetSpec_eq_ok_iff] at hcheck
    | some v =>
      obtain ⟨_, f, -, -, hdecode⟩ := FieldSet.decode_of_check (hdistinct v rfl) hcheck
      exact ⟨f, hdecode⟩
  all_goals exact absurd hname (by decide)

/-- The spec of field sets lets nothing through that cannot be read, and what is read is what the
object shows. So the operations that take a field set never fail in reading it. -/
theorem decode_of_check_fieldSetSpec :
    (∀ v : Value, v.distinctKeys = true → ∀ operation parameter : String,
      (fieldSetSpec.check (some v) = .ok () →
        ∃ entries f, v = .object entries ∧ f.Shows entries ∧
          FieldSet.decode.argument operation parameter (some v) = .ok f) ∧
      (Spec.check (.oneOf [.string, fieldSetSpec]) (some v) = .ok () →
        (∃ s, v = .string s ∧
          Source.decode.argument operation parameter (some v) = .ok (.raw s)) ∨
        ∃ entries f, v = .object entries ∧ f.Shows entries ∧
          FieldSet.decode.argument operation parameter (some v) = .ok f ∧
          Source.decode.argument operation parameter (some v) = .ok (.fields f))) ∧
    (∀ op ∈ operations, op.name = urlName →
      op.ReadsInput Source.decode fun source arguments evaluator ↦ do
        return .string (← source.href (stringArgument? arguments 1) evaluator.defaultBase)) ∧
    (∀ op ∈ operations, op.name = setName →
      op.ReadsInput FieldSet.decode fun f arguments _ ↦ do
        return .string (← f.update ((stringArgument? arguments 1).getD ""))) := by
  refine ⟨fun v hdistinct operation parameter ↦ ⟨fun hcheck ↦ ?_, fun hcheck ↦ ?_⟩,
    fun _ ↦ readsInput_url, fun _ ↦ readsInput_set⟩
  · obtain ⟨entries, f, hv, hshows, hdecode⟩ := FieldSet.decode_of_check hdistinct hcheck
    refine ⟨entries, f, hv, hshows, ?_⟩
    rw [Decoder.argument, Option.getD_some, hdecode, mapError_ok]
  · rcases FieldSet.source_decode_of_check hdistinct hcheck with
      ⟨s, hv, hsource⟩ | ⟨entries, f, hv, hshows, hdecode, hsource⟩
    · refine .inl ⟨s, hv, ?_⟩
      rw [Decoder.argument, Option.getD_some, hsource, mapError_ok]
    · refine .inr ⟨entries, f, hv, hshows, ?_, ?_⟩
      · rw [Decoder.argument, Option.getD_some, hdecode, mapError_ok]
      · rw [Decoder.argument, Option.getD_some, hsource, mapError_ok]

/-- Entries with a numeric port, search parameters and a key that is no field. -/
def mixedEntries : Entries :=
  [ ("host", .string "a"), ("port", .number (.natural 80 (by decide))), ("color", .null),
    ("searchParams", .object [("b", .string ""), ("a", .string "&")]) ]

theorem decode_mixedEntries :
    (Value.object mixedEntries).distinctKeys = true ∧
      Spec.check (.oneOf [.string, fieldSetSpec]) (some (.object mixedEntries)) = .ok () ∧
      ∃ f : FieldSet,
        Source.decode.argument urlName "input" (some (.object mixedEntries)) = .ok (.fields f) ∧
          f.host = some "a" ∧ f.port = some (.number (.natural 80 (by decide))) ∧
          f.searchParams = some [("b", ""), ("a", "&")] := by
  have hdistinct : (Value.object mixedEntries).distinctKeys = true := by decide
  have hcheck : Spec.check (.oneOf [.string, fieldSetSpec]) (some (.object mixedEntries)) =
      .ok () := rfl
  rcases (decode_of_check_fieldSetSpec.1 _ hdistinct urlName "input").2 hcheck with
    ⟨s, hv, -⟩ | ⟨entries, f, hv, hshows, -, hsource⟩
  · cases hv
  · cases hv
    refine ⟨hdistinct, hcheck, f, hsource, ?_, ?_, ?_⟩
    · exact (hshows.text ("host", FieldSet.host) (by simp [FieldSet.textFields]) "a").mpr rfl
    · exact (hshows.port _).mpr rfl
    · exact (hshows.searchParams _).mpr rfl

end UrlOperation

end UrlCalculus
