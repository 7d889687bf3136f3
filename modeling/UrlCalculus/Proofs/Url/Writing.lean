import UrlCalculus.Proofs.Url.WellFormed

/-!
# The written form of a URL cut into its parts

What a URL is written with stays recognizable: each part avoids the characters that begin a later
one, and nothing at the ends is trimmed off. So the written form of a well-formed URL is a reference
with the scheme, the query and the fragment of the URL, and they are not encoded a second time.
-/

namespace UrlCalculus

theorem Path.exists_segments {p : Path} (h : p.isRootless = false) : ∃ ss, p = .segments ss := by
  cases p with
  | rootless t => cases h
  | segments ss => exact ⟨ss, rfl⟩

theorem Path.head?_text {p : Path} (h : p.isRootless = false) : ∀ c ∈ p.text.head?, c = '/' := by
  obtain ⟨ss, rfl⟩ := exists_segments h
  cases ss with
  | nil => simp [text]
  | cons x xs => simp [text]

namespace Url

variable {u : Url}

/-! ## The parts of the written form -/

/-- What stands behind the authority. -/
def tailText (u : Url) : Text := (if u.dotMark then ['/', '.'] else []) ++ u.path.text

/-- What stands between the scheme and the query. -/
def bodyText (u : Url) : Text := u.authorityText ++ u.tailText

theorem queryText_eq (u : Url) : u.queryText = Text.withDelimiter '?' u.query := by
  rw [queryText]
  cases u.query <;> rfl

theorem fragmentText_eq (u : Url) : u.fragmentText = Text.withDelimiter '#' u.fragment := by
  rw [fragmentText]
  cases u.fragment <;> rfl

theorem text_eq (u : Url) :
    u.text = Reference.written u.scheme u.bodyText u.query u.fragment := by
  rw [text, queryText_eq, fragmentText_eq, Reference.written, bodyText, tailText]
  simp only [List.append_assoc, List.cons_append]

theorem bodyText_of_authority {a : Authority} (ha : u.authority = some a) :
    u.bodyText = '/' :: '/' :: (a.text ++ u.tailText) := by
  rw [bodyText, authorityText, ha]
  rfl

theorem bodyText_of_none (ha : u.authority = none) : u.bodyText = u.tailText := by
  rw [bodyText, authorityText, ha]
  rfl

theorem tailText_of_not_dotMark (hmark : u.dotMark = false) : u.tailText = u.path.text := by
  rw [tailText, hmark]
  rfl

theorem head?_tailText (hrooted : u.path.isRootless = false) :
    ∀ c ∈ u.tailText.head?, c = '/' := by
  cases hmark : u.dotMark with
  | true =>
    rw [tailText, hmark]
    simp
  | false =>
    rw [tailText_of_not_dotMark hmark]
    exact Path.head?_text hrooted

theorem WellFormed.dotMark_eq_false_of_isSpecial (hu : u.WellFormed)
    (hspecial : u.scheme.isSpecial = true) : u.dotMark = false := by
  refine Bool.eq_false_iff.mpr fun hmark ↦ ?_
  rw [(hu.dotMark_rooted hmark).1] at hspecial
  exact absurd hspecial (by simp)

/-- A rootless path stands right behind the scheme. -/
theorem WellFormed.of_rootless (hu : u.WellFormed) {t : Text} (ht : u.path = .rootless t) :
    u.authority = none ∧ u.dotMark = false := by
  constructor
  · have hpath := hu.path_wellFormed
    rw [ht] at hpath
    exact Option.isNone_iff_eq_none.mp (by simpa using hpath.2.1)
  · refine Bool.eq_false_iff.mpr fun hmark ↦ ?_
    have hrooted := (hu.dotMark_rooted hmark).2
    rw [ht] at hrooted
    cases hrooted

theorem WellFormed.bodyText_rootless (hu : u.WellFormed) {t : Text} (ht : u.path = .rootless t) :
    u.bodyText = t := by
  obtain ⟨hnone, hmark⟩ := hu.of_rootless ht
  rw [bodyText_of_none hnone, tailText_of_not_dotMark hmark, ht]
  rfl

theorem WellFormed.avoids_rootless (hu : u.WellFormed) {t : Text} (ht : u.path = .rootless t) :
    Text.Avoids Path.rootlessSet t := by
  have hpath := hu.path_wellFormed
  rw [ht] at hpath
  exact hpath.2.2.1

/-! ## What the body avoids -/

/-- What the body of a URL avoids, if its path is not rootless. -/
theorem WellFormed.avoids_bodyText (hu : u.WellFormed) (hrooted : u.path.isRootless = false)
    {p : Char → Bool} (hpath : ∀ c, p c = true → EncodeSet.path c = true)
    (hhost : ∀ h : Host, h.Valid u.scheme.isSpecial → Text.Avoids p h.text)
    (hchars : Text.Avoids p "/.:@0123456789".toList) : Text.Avoids p u.bodyText := by
  have hchar (c : Char) (hc : c ∈ "/.:@0123456789".toList) : p c = false := hchars c hc
  have hdigits : ∀ d < 10, p (Nat.digitChar d) = false := by
    have hmem : ∀ d < 10, Nat.digitChar d ∈ "/.:@0123456789".toList := by decide
    exact fun d hd ↦ hchar _ (hmem d hd)
  have hslash := hchar '/' (by decide)
  rw [bodyText, tailText, Text.avoids_append, Text.avoids_append]
  -- the authority, the mark and the path
  refine ⟨?_, ?_, ?_⟩
  · rw [authorityText]
    cases ha : u.authority with
    | none => exact Text.avoids_nil
    | some a =>
      have htext : Text.Avoids p a.text :=
        (hu.authority_wellFormed a ha).avoids_text (hhost a.host)
          (fun c hc ↦ EncodeSet.userinfo_of_path (hpath c hc)) (hchar ':' (by decide))
          (hchar '@' (by decide)) hdigits
      simp [hslash, htext]
  · split
    · simp [hslash, hchar '.' (by decide)]
    · exact Text.avoids_nil
  · have hwf := hu.path_wellFormed
    obtain ⟨ss, hp⟩ := Path.exists_segments hrooted
    rw [hp] at hwf ⊢
    intro c hc
    obtain ⟨x, hx, hcx⟩ := List.mem_flatMap.mp hc
    rcases List.mem_cons.mp hcx with rfl | hcx
    · exact hslash
    · exact (Path.avoids_segmentSet.mp (hwf.1 x hx)).1.mono hpath c hcx

theorem path_of_isControlOrSpace {c : Char} (h : Text.isControlOrSpace c = true) :
    EncodeSet.path c = true :=
  EncodeSet.path_of_fragment (EncodeSet.fragment_of_isControlOrSpace h)

theorem WellFormed.avoids_delimiters (hu : u.WellFormed) :
    Text.Avoids (fun c ↦ c == '?' || c == '#') u.bodyText := by
  have hcases (c : Char) (hc : (c == '?' || c == '#') = true) : c = '?' ∨ c = '#' := by
    simpa using hc
  cases hp : u.path with
  | rootless t =>
    rw [hu.bodyText_rootless hp]
    refine (hu.avoids_rootless hp).mono fun c hc ↦ ?_
    rcases hcases c hc with rfl | rfl <;> rfl
  | segments ss =>
    refine hu.avoids_bodyText (by rw [hp]; rfl) (fun c hc ↦ ?_) (fun h hvalid ↦ ?_) (by decide)
    · rcases hcases c hc with rfl | rfl <;> rfl
    · refine hvalid.avoids_text (fun c hc ↦ ?_) (fun c hc _ ↦ .inl ?_) (by decide)
      · rcases hcases c hc with rfl | rfl <;> rfl
      · rcases hcases c hc with rfl | rfl <;> rfl

theorem WellFormed.avoids_isControlOrSpace (hu : u.WellFormed)
    (hrooted : u.path.isRootless = false) : Text.Avoids Text.isControlOrSpace u.bodyText :=
  hu.avoids_bodyText hrooted (fun _ ↦ path_of_isControlOrSpace)
    (fun _ hvalid ↦ hvalid.avoids_isControlOrSpace) (by decide)

theorem WellFormed.avoids_isBreak (hu : u.WellFormed) : Text.Avoids Text.isBreak u.bodyText := by
  cases hp : u.path with
  | rootless t =>
    rw [hu.bodyText_rootless hp]
    refine (hu.avoids_rootless hp).mono fun c hc ↦ ?_
    simp [Path.rootlessSet, EncodeSet.adding, EncodeSet.controls_of_isBreak hc]
  | segments ss =>
    exact (hu.avoids_isControlOrSpace (by rw [hp]; rfl)).mono
      fun c ↦ Text.isControlOrSpace_of_isBreak

theorem WellFormed.fragment_breaks (hu : u.WellFormed) (f : Text) (hf : u.fragment = some f) :
    Text.Avoids Text.isBreak f :=
  (hu.fragment_avoids f hf).mono fun _ hc ↦
    EncodeSet.fragment_of_controls (EncodeSet.controls_of_isBreak hc)

theorem WellFormed.query_breaks (hu : u.WellFormed) (q : Text) (hq : u.query = some q) :
    Text.Avoids (fun c ↦ Text.isBreak c || c == '#') q := by
  refine (hu.query_avoids q hq).mono fun c hc ↦ querySet_of_query u.scheme ?_
  rw [Bool.or_eq_true, beq_iff_eq] at hc
  rcases hc with hc | rfl
  · exact EncodeSet.query_of_controls (EncodeSet.controls_of_isBreak hc)
  · rfl

theorem WellFormed.avoids_isBreak_text (hu : u.WellFormed) : Text.Avoids Text.isBreak u.text := by
  have hquery : Text.Avoids Text.isBreak (Text.withDelimiter '?' u.query) :=
    Text.avoids_withDelimiter rfl fun q hq ↦ (hu.query_breaks q hq).mono fun c hc ↦ by simp [hc]
  have hfragment : Text.Avoids Text.isBreak (Text.withDelimiter '#' u.fragment) :=
    Text.avoids_withDelimiter rfl hu.fragment_breaks
  have hcolon : Text.isBreak ':' = false := rfl
  rw [text_eq, Reference.written]
  simp [Scheme.avoids_isBreak hu.scheme_written, hcolon, hu.avoids_isBreak, hquery, hfragment]

/-! ## The end of the written form -/

theorem getLast?_append_cases {s t : Text} {c : Char} (h : c ∈ (s ++ t).getLast?) :
    c ∈ t.getLast? ∨ t = [] ∧ c ∈ s.getLast? := by
  rw [List.getLast?_append] at h
  cases ht : t.getLast? with
  | none =>
    rw [ht] at h
    exact .inr ⟨List.getLast?_eq_none_iff.mp ht, h⟩
  | some d =>
    rw [ht] at h
    exact .inl h

/-- At the end of a URL a rootless path is firm, and other paths have no spaces at all. -/
theorem WellFormed.getLast?_bodyText (hu : u.WellFormed) (hquery : u.query = none)
    (hfragment : u.fragment = none) :
    ∀ c ∈ u.bodyText.getLast?, Text.isControlOrSpace c = false := by
  intro c hc
  cases hp : u.path with
  | rootless t =>
    rw [hu.bodyText_rootless hp] at hc
    have hspace := hu.path_firm t hp hquery hfragment
    refine Bool.eq_false_iff.mpr fun hcontrol ↦ ?_
    rcases EncodeSet.controls_or_space hcontrol with hcontrols | rfl
    · have hset : Path.rootlessSet c = true := by
        simp [Path.rootlessSet, EncodeSet.adding, hcontrols]
      exact (hu.avoids_rootless hp).not_mem hset (List.mem_of_mem_getLast? hc)
    · exact hspace hc
  | segments ss =>
    exact hu.avoids_isControlOrSpace (by rw [hp]; rfl) c (List.mem_of_mem_getLast? hc)

/-- Nothing is trimmed off the end of a URL. -/
theorem WellFormed.getLast?_text (hu : u.WellFormed) :
    ∀ c ∈ u.text.getLast?, Text.isControlOrSpace c = false := by
  have hquery : Text.Avoids Text.isControlOrSpace (Text.withDelimiter '?' u.query) :=
    Text.avoids_withDelimiter rfl fun q hq ↦ (hu.query_avoids q hq).mono
      fun c hc ↦ querySet_of_query _ (EncodeSet.query_of_isControlOrSpace hc)
  have hfragment : Text.Avoids Text.isControlOrSpace (Text.withDelimiter '#' u.fragment) :=
    Text.avoids_withDelimiter rfl fun f hf ↦ (hu.fragment_avoids f hf).mono
      fun c hc ↦ EncodeSet.fragment_of_isControlOrSpace hc
  intro c hc
  rw [text_eq, Reference.written, List.append_cons] at hc
  -- the last character is one of the last part that is not empty
  rcases getLast?_append_cases hc with hc | ⟨-, hc⟩
  · rcases getLast?_append_cases hc with hc | ⟨hnil, hc⟩
    · exact Text.avoids_append.mpr ⟨hquery, hfragment⟩ c (List.mem_of_mem_getLast? hc)
    · obtain ⟨hqueryNil, hfragmentNil⟩ := List.append_eq_nil_iff.mp hnil
      exact hu.getLast?_bodyText (Text.withDelimiter_eq_nil_iff.mp hqueryNil)
        (Text.withDelimiter_eq_nil_iff.mp hfragmentNil) c hc
  · rw [List.getLast?_concat] at hc
    rw [← Option.some.inj hc]
    rfl

/-! ## The written form as a reference -/

/-- The parts of a URL as a reference. -/
def reference (u : Url) : Reference := ⟨some u.scheme, u.bodyText, u.query, u.fragment⟩

/-- **The written form of a URL is cut into its parts.** -/
theorem WellFormed.ofText_text (hu : u.WellFormed) : Reference.ofText u.text = u.reference := by
  have hlast := hu.getLast?_text
  rw [text_eq] at hlast ⊢
  exact Reference.ofText_written hu.scheme_written hu.avoids_delimiters hu.query_breaks
    hu.fragment_breaks hlast

theorem WellFormed.plain_reference (hu : u.WellFormed) : u.reference.plain = u.reference := by
  rw [Reference.plain, reference]
  simp only [Text.withoutBreaks_of_avoids hu.avoids_isBreak]

/-- The query and the fragment of a URL are not encoded a second time. -/
theorem WellFormed.complete_reference (hu : u.WellFormed) (authority : Option Authority)
    (path : Path) :
    complete u.scheme authority path u.reference =
      { u with authority, path, dotMark := needsDotMark authority path } := by
  have hquery : u.query.map (Text.percentEncode (querySet u.scheme)) = u.query :=
    (Option.map_congr fun q hq ↦ Text.percentEncode_of_avoids (hu.query_avoids q hq)).trans
      Option.map_id'
  have hfragment : u.fragment.map (Text.percentEncode .fragment) = u.fragment :=
    (Option.map_congr fun f hf ↦ Text.percentEncode_of_avoids (hu.fragment_avoids f hf)).trans
      Option.map_id'
  rw [complete, reference]
  simp only [hquery, hfragment]

end Url

end UrlCalculus
