import UrlCalculus.Proofs.Url.RoundTrip

/-!
# Which URLs are read from their written form

Whether the written form of a well-formed URL is a URL at all is a weaker question than whether it
is the same one. Three things can go wrong, and `Readable` excludes just these: a password stands in
front of no host; the host of a special URL is refused when it is mapped again; and a path that
begins with two slashes and has no mark in front of it is taken for an authority which is none.

Whatever the written form is read as, its query is the one that was written.
-/

namespace UrlCalculus

namespace Url

/-- What it takes for the written form of a URL to be read as some URL. -/
structure Readable (u : Url) : Prop where
  password : ∀ a, u.authority = some a → a.host = .none → a.password = []
  host : u.scheme.isSpecial = true → u.host ≠ .none → ∃ h, Host.special u.host.text = .ok h
  path : u.authority = none → u.dotMark = false → ∀ t, u.path.text = '/' :: '/' :: t →
    ∃ a rest, readAuthority u.scheme t (u.query.isSome || u.fragment.isSome) = .ok (a, rest)

variable {u : Url}

/-! ## Without an authority -/

/-- Only two slashes in front can keep a reference with such a scheme from being read. -/
theorem exists_ofNonspecial_iff {s : Scheme} {r : Reference} :
    (∃ v, ofNonspecial s r = .ok v) ↔ ∀ t, r.body = '/' :: '/' :: t →
      ∃ a rest, readAuthority s t (r.query.isSome || r.fragment.isSome) = .ok (a, rest) := by
  rw [ofNonspecial.eq_def]
  split
  · rename_i t hbody
    have hread : (∃ v, ofAuthority s t r = .ok v) ↔
        ∃ p, readAuthority s t (r.query.isSome || r.fragment.isSome) = .ok p :=
      exists_bind_eq_ok_iff fun _ ↦ ⟨_, rfl⟩
    rw [hread, Prod.exists]
    simp only [hbody, List.cons.injEq, true_and, forall_eq']
  · rename_i t hne hbody
    exact ⟨fun _ t' ht ↦ (hne t' (List.cons.inj (hbody.symm.trans ht)).2).elim,
      fun _ ↦ ⟨_, rfl⟩⟩
  · rename_i hne _
    exact ⟨fun _ t ht ↦ absurd ht (hne t), fun _ ↦ ⟨_, rfl⟩⟩

/-- The mark keeps the slashes of a path away from the front. -/
theorem tailText_eq_slashes_iff {t : Text} :
    u.tailText = '/' :: '/' :: t ↔ u.dotMark = false ∧ u.path.text = '/' :: '/' :: t := by
  cases hmark : u.dotMark with
  | true => simp [tailText, hmark]
  | false => simp [tailText_of_not_dotMark hmark]

theorem WellFormed.exists_parse_text_iff_of_none (hu : u.WellFormed) (ha : u.authority = none) :
    (∃ v, parse none u.text = .ok v) ↔ u.Readable := by
  have hbody : u.reference.body = u.tailText := bodyText_of_none ha
  have hspecial := hu.isSpecial_eq_false ha
  rw [hu.parse_text_of_none ha, exists_ofNonspecial_iff, hbody]
  simp only [tailText_eq_slashes_iff]
  constructor
  · intro h
    refine ⟨fun a hsome ↦ ?_, fun htrue ↦ ?_, fun _ hmark t ht ↦ h t ⟨hmark, ht⟩⟩
    · rw [ha] at hsome
      cases hsome
    · rw [hspecial] at htrue
      cases htrue
  · rintro h t ⟨hmark, ht⟩
    exact h.path ha hmark t ht

/-! ## With an authority -/

theorem exists_reread_iff {isSpecial : Bool} {h : Host} (hvalid : h.Valid isSpecial) :
    (∃ h', h.reread isSpecial = .ok h') ↔
      (isSpecial = true → h ≠ .none → ∃ h', Host.special h.text = .ok h') := by
  cases isSpecial with
  | true => simp [Host.reread, hvalid.ne_none]
  | false => simp [Host.reread, Host.nonspecial_text hvalid]

/-- With an authority only the password and the host are in the way. -/
theorem readable_iff_of_authority {a : Authority} (ha : u.authority = some a) :
    u.Readable ↔ (a.host = .none → a.password = []) ∧
      (u.scheme.isSpecial = true → a.host ≠ .none → ∃ h, Host.special a.host.text = .ok h) := by
  rw [← host_eq ha]
  constructor
  · intro h
    exact ⟨fun hnone ↦ h.password a ha (by rwa [← host_eq ha]), h.host⟩
  · rintro ⟨hpassword, hhost⟩
    refine ⟨fun b hb hnone ↦ ?_, hhost, fun hnone ↦ ?_⟩
    · obtain rfl := Option.some.inj (ha.symm.trans hb)
      exact hpassword (by rwa [host_eq ha])
    · rw [ha] at hnone
      cases hnone

theorem WellFormed.exists_parse_text_iff_of_authority (hu : u.WellFormed) {a : Authority}
    (ha : u.authority = some a) (hfile : u.scheme.isFile = false) :
    (∃ v, parse none u.text = .ok v) ↔ u.Readable := by
  have hvalid := (hu.authority_wellFormed a ha).host_valid_of_not_isFile hfile
  rw [readable_iff_of_authority ha, ← exists_reread_iff hvalid, hu.parse_text_of_authority ha hfile]
  split
  · rename_i hbad
    simp [hbad.1, hbad.2]
  · rename_i hgood
    have hpassword : a.host = .none → a.password = [] := by simpa using hgood
    rw [exists_bind_eq_ok_iff fun _ ↦ ⟨_, rfl⟩]
    exact ⟨fun hread ↦ ⟨hpassword, hread⟩, And.right⟩

/-- The host of a file URL is read whenever it is read as a special one. -/
theorem exists_readFileHost_iff {t : Text} :
    (∃ h, readFileHost t = .ok h) ↔ ∃ h, Host.special t = .ok h :=
  exists_bind_eq_ok_iff fun _ ↦ ⟨_, rfl⟩

theorem WellFormed.exists_parse_text_iff_of_isFile (hu : u.WellFormed) {a : Authority}
    (ha : u.authority = some a) (hfile : u.scheme.isFile = true) :
    (∃ v, parse none u.text = .ok v) ↔ u.Readable := by
  have hwf := hu.authority_wellFormed a ha
  have hspecial := Scheme.isSpecial_of_isFile hfile
  have hofHost := (hwf.file hfile).1
  have hpassword : a.password = [] := by rw [hofHost]; rfl
  obtain ⟨x, xs, hp, havoids⟩ := hu.segments_of_isSpecial hspecial
  rw [readable_iff_of_authority ha]
  simp only [hpassword, implies_true, true_and, hspecial, true_implies]
  rw [hofHost] at ha
  by_cases hnone : a.host = .none
  · have hslash := Path.head?_text (show u.path.isRootless = false by rw [hp]; rfl)
    have htext : a.host.text ++ u.path.text = u.path.text := by
      rw [hnone]
      rfl
    rw [hu.parse_text_of_file hfile ha, htext, ofFileAuthority_of_none hslash]
    simp [hnone]
  · have hvalid := hwf.host_valid_of_ne_none hnone
    rw [hspecial] at hvalid
    have hgoes (h : Host) (v w : Url) :
        ∃ found, (if h.isNone then .ok v else .ok w : Except UrlError Url) = .ok found := by
      split
      · exact ⟨v, rfl⟩
      · exact ⟨w, rfl⟩
    rw [hu.parse_text_of_fileHost hfile ha hvalid hp havoids,
      exists_bind_eq_ok_iff fun _ ↦ hgoes _ _ _, exists_readFileHost_iff]
    simp only [hnone, ne_eq, not_false_eq_true, true_implies]

/-- **The written form of a URL is read as some URL exactly when it is readable.** -/
theorem WellFormed.exists_parse_text_iff (hu : u.WellFormed) :
    (∃ v, parse none u.text = .ok v) ↔ u.Readable := by
  cases ha : u.authority with
  | none => exact hu.exists_parse_text_iff_of_none ha
  | some a =>
    cases hfile : u.scheme.isFile with
    | false => exact hu.exists_parse_text_iff_of_authority ha hfile
    | true => exact hu.exists_parse_text_iff_of_isFile ha hfile

/-! ## The query -/

/-- The query of a URL that was read is the one of the reference, encoded. -/
theorem exists_query_of_parse {t : Text} {v : Url} (h : parse none t = .ok v) :
    ∃ s, v.query = (Reference.ofText t).query.map (Text.percentEncode (querySet s)) := by
  obtain ⟨s, -, hdenotes⟩ := denotes_of_parse h
  refine ⟨s, ?_⟩
  cases hdenotes with
  | withAuthority _ _ => rfl
  | rooted _ => rfl
  | rootless _ _ => rfl
  | file _ _ _ => rfl

theorem specialQuery_of_querySet {s : Scheme} {c : Char} (h : querySet s c = true) :
    EncodeSet.specialQuery c = true := by
  rw [querySet] at h
  split at h
  · exact h
  · exact EncodeSet.specialQuery_of_query h

/-- A query that no scheme would encode is read as it was written. -/
theorem WellFormed.query_of_parse_text (hu : u.WellFormed)
    (hquery : ∀ q, u.query = some q → Text.Avoids EncodeSet.specialQuery q) {v : Url}
    (h : parse none u.text = .ok v) : v.query = u.query := by
  obtain ⟨s, hs⟩ := exists_query_of_parse h
  rw [hs, hu.ofText_text]
  refine (Option.map_congr fun q hq ↦ ?_).trans Option.map_id'
  exact Text.percentEncode_of_avoids ((hquery q hq).mono fun c ↦ specialQuery_of_querySet)

end Url

end UrlCalculus
