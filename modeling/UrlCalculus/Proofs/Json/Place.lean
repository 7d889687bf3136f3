import UrlCalculus.Proofs.Json.DistinctKeys
import UrlCalculus.Proofs.Json.Path
import UrlCalculus.Proofs.Text.Digits

/-!
# Places and their paths

A place inside a value is given by the steps that lead to it, a key for an object and an index for
an array. The path of a place is made of its keys and the digits of its indices. The descent along
segments is given here by one rule for each kind of step, without reference to cutting a path or to
reading an index.

A path has to be cut into the segments it was made of, so no segment may have a dot in it. One list
of segments has no path: that of a single empty segment, whose path is the empty one and names the
value itself. Everything else that stands below the root is found.

## Indices

A segment may write an index in more than one way, with zeros and a plus sign in front, but only up
to 64 bits. The items of an array that fits into memory have no other indices.
-/

namespace UrlCalculus

/-! ## Descent along segments -/

/-- A segment writes an index of at most 64 bits: its digits behind any number of zeros, and a plus
sign in front of them or not. -/
def DenotesIndex (segment : String) (i : Nat) : Prop :=
  i < 2 ^ 64 ∧ ∃ k, segment.toList = List.replicate k '0' ++ Text.decimal i ∨
    segment.toList = '+' :: (List.replicate k '0' ++ Text.decimal i)

/-- The value that segments lead to: in an object a segment is a key, in an array it denotes an
index. -/
inductive Value.Descends : Value → List String → Value → Prop where
  | here (v : Value) : Descends v [] v
  | key {key : String} {rest : List String} {entries : Entries} {inner w : Value} :
      Entries.get? entries key = some inner → Descends inner rest w →
      Descends (.object entries) (key :: rest) w
  | item {segment : String} {i : Nat} {rest : List String} {items : List Value} {inner w : Value} :
      DenotesIndex segment i → items[i]? = some inner → Descends inner rest w →
      Descends (.array items) (segment :: rest) w

theorem Text.dropOne_of_avoids {p : Char → Bool} {t : Text} (h : Avoids p t) : dropOne p t = t := by
  cases t with
  | nil => rfl
  | cons c t => rw [dropOne, if_neg (by simp [(avoids_cons.mp h).1])]

/-- The sign in front of digits is passed over, and there are no other signs. -/
theorem number?_dropOne_eq_some_iff {t : Text} {n : Nat} :
    Text.number? 10 (Text.dropOne (· == '+') t) = some n ↔
      ∃ k, t = List.replicate k '0' ++ Text.decimal n ∨
        t = '+' :: (List.replicate k '0' ++ Text.decimal n) := by
  rw [Text.number?_eq_some_iff]
  constructor
  · rintro ⟨k, hk⟩
    cases t with
    | nil => exact ⟨k, .inl hk⟩
    | cons c t =>
      rw [Text.dropOne] at hk
      split at hk
      · rename_i hc
        rw [eq_of_beq hc, hk]
        exact ⟨k, .inr rfl⟩
      · exact ⟨k, .inl hk⟩
  · rintro ⟨k, rfl | rfl⟩
    · have hdigits : Text.Avoids (· == '+') (List.replicate k '0' ++ Text.decimal n) := by
        rw [Text.avoids_append]
        exact ⟨fun c hc ↦ List.eq_of_mem_replicate hc ▸ rfl, Text.avoids_decimal (by decide) n⟩
      exact ⟨k, Text.dropOne_of_avoids hdigits⟩
    · exact ⟨k, rfl⟩

theorem segmentIndex?_eq_some_iff {segment : String} {i : Nat} :
    segmentIndex? segment = some i ↔ DenotesIndex segment i := by
  rw [DenotesIndex, ← number?_dropOne_eq_some_iff, segmentIndex?, Option.bind_eq_bind,
    Option.bind_eq_some_iff]
  constructor
  · rintro ⟨n, hn, hrange⟩
    split at hrange
    · rename_i hlt
      cases hrange
      exact ⟨hlt, hn⟩
    · cases hrange
  · rintro ⟨hlt, hn⟩
    exact ⟨i, hn, if_pos hlt⟩

namespace Value

variable {v w : Value}

theorem Descends.descend?_eq_some {segments : List String} (h : v.Descends segments w) :
    v.descend? segments = some w := by
  induction h with
  | here => rfl
  | key hkey _ ih => rw [descend?, child?, hkey, Option.bind_eq_bind, Option.bind_some, ih]
  | item hindex hitem _ ih =>
    rw [descend?, child?, segmentIndex?_eq_some_iff.mpr hindex, Option.bind_eq_bind,
      Option.bind_eq_bind, Option.bind_some, hitem, Option.bind_some, ih]

/-- The descent finds what the segments lead to, and nothing else. -/
theorem descend?_eq_some_iff {segments : List String} :
    v.descend? segments = some w ↔ v.Descends segments w := by
  refine ⟨fun h ↦ ?_, Descends.descend?_eq_some⟩
  induction segments generalizing v with
  | nil =>
    cases h
    exact .here _
  | cons segment rest ih =>
    obtain ⟨inner, hinner, hrest⟩ := Option.bind_eq_some_iff.mp h
    cases v with
    | object entries => exact .key hinner (ih hrest)
    | array items =>
      obtain ⟨i, hi, hitem⟩ := Option.bind_eq_some_iff.mp hinner
      exact .item (segmentIndex?_eq_some_iff.mp hi) hitem (ih hrest)
    | _ => cases hinner

/-- The path of segments, which is cut into these again. -/
theorem resolve?_intercalate {segments : List String} (hne : segments ≠ [])
    (hlone : segments ≠ [""]) (hdots : ∀ segment ∈ segments, '.' ∉ segment.toList) :
    v.resolve? (".".intercalate segments) = v.descend? segments := by
  have hpieces : Text.pieces (· == '.') (".".intercalate segments).toList =
      segments.map String.toList := by
    rw [String.toList_intercalate]
    change Text.pieces (· == '.') (List.intercalate ['.'] _) = _
    rw [Text.intercalate_eq_join]
    refine Text.pieces_join rfl (by simpa using hne) fun t ht ↦ ?_
    obtain ⟨segment, hsegment, rfl⟩ := List.mem_map.mp ht
    exact Text.avoids_beq_iff.mpr (hdots segment hsegment)
  have hsegments : (segments.map String.toList).map String.ofList = segments := by
    simp [Function.comp_def]
  have hpath : ".".intercalate segments ≠ "" := by
    intro hempty
    rw [hempty] at hpieces
    refine hlone ?_
    rw [← hsegments, ← hpieces]
    rfl
  rw [resolve?_of_ne hpath, hpieces, hsegments]

/-! ## Places -/

/-- A step into a value. -/
inductive Step where
  | key (key : String)
  | index (i : Nat)

/-- The segment that a step is written as. -/
def Step.segment : Step → String
  | .key name => name
  | .index i => String.ofList (Text.decimal i)

/-- A step that can be written: a key without a dot, or an index of at most 64 bits. -/
def Step.Writable : Step → Prop
  | .key name => '.' ∉ name.toList
  | .index i => i < 2 ^ 64

/-- What stands in a value at the end of some steps. -/
inductive At : Value → List Step → Value → Prop where
  | here (v : Value) : At v [] v
  | key {key : String} {rest : List Step} {entries : Entries} {inner w : Value} :
      (key, inner) ∈ entries → At inner rest w → At (.object entries) (.key key :: rest) w
  | index {i : Nat} {rest : List Step} {items : List Value} {inner w : Value} :
      items[i]? = some inner → At inner rest w → At (.array items) (.index i :: rest) w

/-- Every part has a place. -/
theorem part_iff_exists_at : Part w v ↔ ∃ steps, v.At steps w := by
  constructor
  · intro h
    induction h with
    | self => exact ⟨[], .here _⟩
    | item hitem _ ih =>
      obtain ⟨steps, hsteps⟩ := ih
      obtain ⟨i, hi⟩ := List.mem_iff_getElem?.mp hitem
      exact ⟨.index i :: steps, .index hi hsteps⟩
    | entry hentry _ ih =>
      obtain ⟨steps, hsteps⟩ := ih
      exact ⟨.key _ :: steps, .key hentry hsteps⟩
  · rintro ⟨steps, h⟩
    induction h with
    | here => exact .self _
    | key hentry _ ih => exact .entry hentry ih
    | index hitem _ ih => exact .item (List.mem_of_getElem? hitem) ih

theorem segment_index_ne_empty (i : Nat) : (Step.index i).segment ≠ "" := by
  rw [Step.segment, Ne, ← String.toList_eq_nil_iff, String.toList_ofList]
  exact Text.decimal_ne_nil i

/-- No segment of a step that can be written has a dot in it. -/
theorem Step.Writable.dot_not_mem {step : Step} (h : step.Writable) :
    '.' ∉ step.segment.toList := by
  cases step with
  | key name => exact h
  | index i =>
    rw [Step.segment, String.toList_ofList]
    exact Text.avoids_beq_iff.mp (Text.avoids_decimal (by decide) i)

/-- The segments of a place lead to it. -/
theorem At.descends {steps : List Step} (h : v.At steps w) (hdistinct : v.distinctKeys = true)
    (hsteps : ∀ step ∈ steps, step.Writable) : v.Descends (steps.map Step.segment) w := by
  induction h with
  | here => exact .here _
  | key hentry _ ih =>
    obtain ⟨hnodup, hvalues⟩ := distinctKeys_object_iff.mp hdistinct
    obtain ⟨-, hrest⟩ := List.forall_mem_cons.mp hsteps
    exact .key (Entries.get?_of_mem hnodup hentry) (ih (hvalues _ hentry) hrest)
  | @index i _ _ _ _ hitem _ ih =>
    obtain ⟨hi, hrest⟩ := List.forall_mem_cons.mp hsteps
    have hinner := distinctKeys_array_iff.mp hdistinct _ (List.mem_of_getElem? hitem)
    have hdenotes : DenotesIndex (Step.index i).segment i :=
      ⟨hi, 0, .inl (by rw [Step.segment, String.toList_ofList]; rfl)⟩
    exact .item hdenotes hitem (ih hinner hrest)

/-- The segments of a place are not the lone empty one when the place is not under a lone empty
key. -/
theorem map_segment_ne_lone {steps : List Step} (h : steps ≠ [.key ""]) :
    steps.map Step.segment ≠ [""] := by
  intro hsegments
  obtain ⟨step, rfl, hempty⟩ := List.map_eq_singleton_iff.mp hsegments
  cases step with
  | key name => exact h (by rw [show name = "" from hempty])
  | index i => exact segment_index_ne_empty i hempty

/-- **Paths address every place without dots.** The path of segments leads where the segments lead,
and nowhere else; what stands below the root is found at the path of its place, unless this is a
lone empty key; and whatever stands in a value has a place. -/
theorem resolve?_intercalate_eq_some_iff (v : Value) :
    (∀ segments, segments ≠ [] → segments ≠ [""] →
      (∀ segment ∈ segments, '.' ∉ segment.toList) →
      ∀ w, v.resolve? (".".intercalate segments) = some w ↔ v.Descends segments w) ∧
    (v.distinctKeys = true → ∀ steps w, v.At steps w → steps ≠ [] → steps ≠ [.key ""] →
      (∀ step ∈ steps, step.Writable) →
      v.resolve? (".".intercalate (steps.map Step.segment)) = some w) ∧
    ∀ w, Part w v ↔ ∃ steps, v.At steps w := by
  refine ⟨?_, ?_, fun w ↦ part_iff_exists_at⟩
  · intro segments hne hlone hdots w
    rw [resolve?_intercalate hne hlone hdots, descend?_eq_some_iff]
  · intro hdistinct steps w hw hne hlone hsteps
    have hdots : ∀ segment ∈ steps.map Step.segment, '.' ∉ segment.toList := by
      intro segment hsegment
      obtain ⟨step, hstep, rfl⟩ := List.mem_map.mp hsegment
      exact (hsteps step hstep).dot_not_mem
    rw [resolve?_intercalate (by simpa using hne) (map_segment_ne_lone hlone) hdots,
      descend?_eq_some_iff]
    exact hw.descends hdistinct hsteps

/-- An item of an array, behind an empty key. -/
def itemBehindEmptyKey : Value :=
  .object [("a", .null), ("", .object [("é", .array [.null, .string "x"])])]

/-- The index written with a sign and a zero, and as it is. -/
theorem resolve?_intercalate_itemBehindEmptyKey :
    itemBehindEmptyKey.resolve? (".".intercalate ["", "é", "+01"]) = some (.string "x") ∧
      itemBehindEmptyKey.distinctKeys = true ∧
      itemBehindEmptyKey.At [.key "", .key "é", .index 1] (.string "x") ∧
      itemBehindEmptyKey.resolve?
        (".".intercalate ([Step.key "", .key "é", .index 1].map Step.segment)) =
          some (.string "x") := by
  obtain ⟨hsegments, hplaces, -⟩ := resolve?_intercalate_eq_some_iff itemBehindEmptyKey
  have hindex : DenotesIndex "+01" 1 := ⟨by decide, 1, .inr rfl⟩
  have hat : itemBehindEmptyKey.At [.key "", .key "é", .index 1] (.string "x") :=
    .key (.tail _ (.head _)) (.key (.head _) (.index rfl (.here _)))
  refine ⟨?_, rfl, hat, ?_⟩
  · rw [hsegments _ (by simp) (by simp) (by simp)]
    exact .key rfl (.key rfl (.item hindex rfl (.here _)))
  · refine hplaces rfl _ _ hat (by simp) (by simp) ?_
    simp [Step.Writable]

end Value

end UrlCalculus
