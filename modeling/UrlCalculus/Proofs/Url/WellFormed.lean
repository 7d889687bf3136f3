import UrlCalculus.Proofs.Url.Authority
import UrlCalculus.Proofs.Url.Path
import UrlCalculus.Proofs.Url.Reference
import UrlCalculus.Url.Resolve

/-!
# Well-formed URLs

What is known of the parts of every URL, however it came about: each part is encoded for the place
where it stands and fits the scheme. `WellFormed` says nothing about how the parts stand next to
each other, so it survives every change of one part.

## Where URLs come from

A reference without a base denotes a URL in one of four ways: with an authority, with a path behind
a slash alone, with a rootless path, or as a file URL. `Denotes` has one constructor for each, and
what holds of URLs that were read is proved by cases on it.
-/

namespace UrlCalculus

namespace Scheme

theorem isSpecial_of_isFile {s : Scheme} (h : s.isFile = true) : s.isSpecial = true := by
  rw [isSpecial, h, Bool.true_or]

theorem isFile_of_not_isSpecial {s : Scheme} (h : s.isSpecial = false) : s.isFile = false := by
  rw [isSpecial, Bool.or_eq_false_iff] at h
  exact h.1

theorem eq_file_of_isFile {s : Scheme} (h : s.isFile = true) : s = file := by
  simpa [isFile] using h

end Scheme

namespace Url

/-- What holds of the parts of every URL. -/
structure WellFormed (u : Url) : Prop where
  scheme_written : Scheme.ofText? u.scheme = some u.scheme
  authority_wellFormed : ∀ a, u.authority = some a → a.WellFormed u.scheme
  authority_isSome : u.scheme.isSpecial = true → u.authority.isSome = true
  path_wellFormed : u.path.WellFormed u.scheme u.authority.isSome
  /-- Dots are only left in the paths of file URLs, which can get another special scheme. -/
  path_dotFree : u.scheme.isSpecial = false → ∀ x ∈ u.path.segmentList, Path.DotFree x
  /-- A rootless path at the end does not end in a space. -/
  path_firm : ∀ t, u.path = .rootless t → u.query = none → u.fragment = none →
    t.getLast? ≠ some ' '
  dotMark_rooted : u.dotMark = true → u.scheme.isSpecial = false ∧ u.path.isRootless = false
  query_avoids : ∀ q, u.query = some q → Text.Avoids (querySet u.scheme) q
  fragment_avoids : ∀ f, u.fragment = some f → Text.Avoids EncodeSet.fragment f

theorem host_eq {u : Url} {a : Authority} (h : u.authority = some a) : u.host = a.host := by
  rw [host, h]

/-- A URL with an authority has no rootless path. -/
theorem WellFormed.isRootless_eq_false {u : Url} (hu : u.WellFormed) {a : Authority}
    (ha : u.authority = some a) : u.path.isRootless = false := by
  have hpath := hu.path_wellFormed
  rw [ha] at hpath
  cases hp : u.path with
  | segments ss => rfl
  | rootless t =>
    rw [hp] at hpath
    cases hpath.2.1

theorem avoids_encodingChars_querySet (s : Scheme) :
    Text.Avoids (querySet s) Text.encodingChars := by
  rw [querySet]
  split
  · exact Text.avoids_encodingChars_specialQuery
  · exact Text.avoids_encodingChars_query

theorem querySet_of_query (s : Scheme) {c : Char} (h : EncodeSet.query c = true) :
    querySet s c = true := by
  rw [querySet]
  split
  · exact EncodeSet.specialQuery_of_query h
  · exact h

/-- Parts that are well-formed make a URL with the query and the fragment of any reference. -/
theorem wellFormed_complete {scheme : Scheme} {authority : Option Authority} {path : Path}
    {r : Reference} (hscheme : Scheme.ofText? scheme = some scheme)
    (hauthority : ∀ a, authority = some a → a.WellFormed scheme)
    (hsome : scheme.isSpecial = true → authority.isSome = true)
    (hpath : path.WellFormed scheme authority.isSome)
    (hdots : scheme.isSpecial = false → ∀ x ∈ path.segmentList, Path.DotFree x)
    (hfirm : ∀ t, path = .rootless t → r.query = none → r.fragment = none →
      t.getLast? ≠ some ' ') : (complete scheme authority path r).WellFormed where
  scheme_written := hscheme
  authority_wellFormed := hauthority
  authority_isSome := hsome
  path_wellFormed := hpath
  path_dotFree := hdots
  path_firm t ht hquery hfragment :=
    hfirm t ht (Option.map_eq_none_iff.mp hquery) (Option.map_eq_none_iff.mp hfragment)
  dotMark_rooted h := by
    obtain ⟨hnone, hslashes⟩ : authority.isNone = true ∧ path.beginsWithTwoSlashes = true := by
      simpa [complete, needsDotMark] using h
    refine ⟨?_, ?_⟩
    · cases hspecial : scheme.isSpecial with
      | false => exact hspecial
      | true =>
        have hauth := hsome hspecial
        rw [Option.isNone_iff_eq_none.mp hnone] at hauth
        exact absurd hauth (by simp)
    · cases path with
      | rootless t => cases hslashes
      | segments ss => rfl
  query_avoids q hq := by
    obtain ⟨t, -, rfl⟩ := Option.map_eq_some_iff.mp hq
    exact Text.avoids_percentEncode_self (avoids_encodingChars_querySet scheme) t
  fragment_avoids f hf := by
    obtain ⟨t, -, rfl⟩ := Option.map_eq_some_iff.mp hf
    exact Text.avoids_percentEncode_self Text.avoids_encodingChars_fragment t

/-! ## Where URLs come from -/

/-- The URLs that a reference with a scheme denotes by itself. -/
inductive Denotes (scheme : Scheme) (r : Reference) : Url → Prop where
  | withAuthority {t : Text} {a : Authority} {rest : Text} {more : Bool}
      (hfile : scheme.isFile = false) (hread : readAuthority scheme t more = .ok (a, rest)) :
      Denotes scheme r (complete scheme (some a) (pathAfterAuthority scheme rest) r)
  | rooted {t : Text} (hspecial : scheme.isSpecial = false) :
      Denotes scheme r (complete scheme none (.read false false [] t) r)
  | rootless (hspecial : scheme.isSpecial = false) (hbody : r.plain.body.head? ≠ some '/') :
      Denotes scheme r
        (complete scheme none (.rootless (Text.percentEncode .controls r.plain.body)) r)
  | file {host : Host} {t : Text} (hfile : scheme.isFile = true)
      (hhost : host = .none ∨ host.Valid true ∧ host ≠ localhost) (ht : t ⊆ r.body) :
      Denotes scheme r (complete scheme (some (.ofHost host)) (.read true true [] t) r)

variable {scheme : Scheme} {r : Reference} {u : Url}

/-- Behind an authority the body of a reference does not matter. -/
theorem ofAuthority_plain (scheme : Scheme) (t : Text) (r : Reference) :
    ofAuthority scheme t r.plain = ofAuthority scheme t r := rfl

theorem denotes_of_ofAuthority {t : Text} (hfile : scheme.isFile = false)
    (h : ofAuthority scheme t r = .ok u) : Denotes scheme r u := by
  obtain ⟨⟨a, rest⟩, hread, hu⟩ := bind_eq_ok_iff.mp h
  cases hu
  exact .withAuthority hfile hread

theorem denotes_of_ofNonspecial (hspecial : scheme.isSpecial = false)
    (h : ofNonspecial scheme r.plain = .ok u) : Denotes scheme r u := by
  have hfile := Scheme.isFile_of_not_isSpecial hspecial
  unfold ofNonspecial at h
  split at h
  · rw [ofAuthority_plain] at h
    exact denotes_of_ofAuthority hfile h
  · cases h
    exact .rooted hspecial
  · rename_i body hne hne'
    cases h
    refine .rootless hspecial fun hhead ↦ ?_
    cases hbody : r.plain.body with
    | nil =>
      rw [hbody] at hhead
      exact absurd hhead (by simp)
    | cons c rest =>
      rw [hbody] at hhead
      cases Option.some.inj hhead
      exact hne' rest hbody

theorem next?_suffix {t : Text} {c : Char} {rest : Text} (h : Text.next? t = some (c, rest)) :
    rest <:+ t := by
  induction t with
  | nil => cases h
  | cons d t ih =>
    rw [Text.next?] at h
    split at h
    · exact (ih h).trans (List.suffix_cons d t)
    · cases h
      exact List.suffix_cons _ _

theorem dropOne_suffix (p : Char → Bool) (t : Text) : Text.dropOne p t <:+ t := by
  cases t with
  | nil => exact List.suffix_refl _
  | cons c t =>
    rw [Text.dropOne]
    split
    · exact List.suffix_cons c t
    · exact List.suffix_refl _

theorem of_readFileHost {t : Text} {h : Host} (hread : readFileHost t = .ok h) :
    h = .none ∨ h.Valid true ∧ h ≠ localhost := by
  obtain ⟨found, hfound, hhost⟩ := bind_eq_ok_iff.mp hread
  cases hhost
  split
  · exact .inl rfl
  · rename_i hlocal
    exact .inr ⟨Host.valid_of_special hfound, hlocal⟩

theorem denotes_of_ofFileAuthority {t : Text} (hfile : scheme.isFile = true) (ht : t ⊆ r.body)
    (h : ofFileAuthority t r = .ok u) : Denotes scheme r u := by
  obtain rfl := Scheme.eq_file_of_isFile hfile
  have hrest : (splitFileHost t).2 ⊆ t := (List.dropWhile_suffix _).subset
  rw [ofFileAuthority] at h
  simp only at h
  split at h
  · cases h
    exact .file hfile (.inl rfl) ht
  · obtain ⟨host, hread, h⟩ := bind_eq_ok_iff.mp h
    have hhost := of_readFileHost hread
    split at h
    · cases h
      exact .file hfile (.inl rfl) fun c hc ↦ ht (hrest hc)
    · cases h
      refine .file hfile ?_ fun c hc ↦ ht (hrest ((dropOne_suffix _ _).subset hc))
      split
      · exact .inl rfl
      · exact hhost

theorem denotes_of_ofFile (hfile : scheme.isFile = true) (h : ofFile none r = .ok u) :
    Denotes scheme r u := by
  have hroot {t : Text} (ht : t ⊆ r.body) : Denotes scheme r (ofFileRoot none t r) := by
    obtain rfl := Scheme.eq_file_of_isFile hfile
    exact .file hfile (.inl rfl) ht
  rw [ofFile] at h
  -- whatever is left to read is an end of the body
  split at h
  · cases h
    exact hroot (List.nil_subset _)
  · rename_i c rest hnext
    have hrest : rest ⊆ r.body := (next?_suffix hnext).subset
    split at h
    · split at h
      · rename_i d tail hnext'
        have htail : tail ⊆ r.body := fun x hx ↦ hrest ((next?_suffix hnext').subset hx)
        split at h
        · exact denotes_of_ofFileAuthority hfile htail h
        · cases h
          exact hroot hrest
      · cases h
        exact hroot hrest
    · cases h
      exact hroot (List.Subset.refl _)

/-- **A URL that a text denotes by itself comes about in one of these ways.** -/
theorem denotes_of_parse {t : Text} (h : parse none t = .ok u) :
    ∃ scheme, Scheme.ofText? scheme = some scheme ∧ Denotes scheme (Reference.ofText t) u := by
  rw [parse, ofReference] at h
  cases hscheme : (Reference.ofText t).scheme with
  | none =>
    rw [hscheme] at h
    exact absurd h (by simp)
  | some scheme =>
    refine ⟨scheme, Reference.ofText?_of_scheme hscheme, ?_⟩
    rw [hscheme] at h
    simp only [Option.filter_none] at h
    split at h
    · rename_i hfile
      exact denotes_of_ofFile hfile h
    · rename_i hfile
      have hfile' : scheme.isFile = false := by simpa using hfile
      split at h
      · rw [ofSpecial, ofAuthority_plain] at h
        exact denotes_of_ofAuthority hfile' h
      · rename_i hspecial
        exact denotes_of_ofNonspecial (by simpa using hspecial) h

/-! ## URLs that were read -/

theorem wellFormed_pathAfterAuthority (scheme : Scheme) (t : Text) :
    (pathAfterAuthority scheme t).WellFormed scheme true := by
  rw [pathAfterAuthority]
  split
  · rename_i hempty
    have hspecial : scheme.isSpecial = false := by
      rw [Bool.and_eq_true, Bool.not_eq_true'] at hempty
      exact hempty.1
    refine ⟨List.forall_mem_nil _, fun _ ↦ ⟨hspecial, rfl⟩, fun hfile ↦ ?_⟩
    rw [Scheme.isFile_of_not_isSpecial hspecial] at hfile
    exact absurd hfile (by simp)
  · exact Path.wellFormed_read scheme true _

theorem isRootless_pathAfterAuthority (scheme : Scheme) (t : Text) :
    (pathAfterAuthority scheme t).isRootless = false := by
  rw [pathAfterAuthority]
  split
  · rfl
  · exact Path.isRootless_read _ _ _ _

/-- A rootless path does not begin with a slash, and has the characters of the text it encodes. -/
theorem wellFormed_rootless {t : Text} (hspecial : scheme.isSpecial = false)
    (hhead : t.head? ≠ some '/') (ht : Text.Avoids (fun c ↦ c == '?' || c == '#') t) :
    (Path.rootless (Text.percentEncode .controls t)).WellFormed scheme false := by
  refine ⟨hspecial, rfl, ?_, ?_⟩
  · refine Text.avoids_percentEncode (by decide) fun c hc hcontrols ↦ ?_
    have hdelimiter := ht c hc
    simp only [Bool.or_eq_false_iff, beq_eq_false_iff_ne] at hdelimiter
    simp [Path.rootlessSet, EncodeSet.adding, hcontrols, hdelimiter.1, hdelimiter.2]
  · rcases Text.head?_percentEncode .controls t with h | h
    · rwa [h]
    · rw [h]
      decide

/-- A path behind an authority that is not a file URL's has no dots. -/
theorem dotFree_pathAfterAuthority (hfile : scheme.isFile = false) (t : Text) :
    ∀ x ∈ (pathAfterAuthority scheme t).segmentList, Path.DotFree x := by
  rw [pathAfterAuthority]
  split
  · exact List.forall_mem_nil _
  · exact Path.dotFree_of_mem_read fun h ↦ by
      rw [hfile] at h
      exact absurd h (by simp)

theorem wellFormed_of_denotes {t : Text} (hscheme : Scheme.ofText? scheme = some scheme)
    (h : Denotes scheme (Reference.ofText t) u) : u.WellFormed := by
  cases h with
  | withAuthority hfile hread =>
    refine wellFormed_complete hscheme (fun a ha ↦ ?_) (fun _ ↦ rfl)
      (wellFormed_pathAfterAuthority scheme _) (fun _ ↦ dotFree_pathAfterAuthority hfile _)
      fun t ht ↦ ?_
    · cases ha
      exact (wellFormed_of_readAuthority hfile hread).1
    · have hrooted := congrArg Path.isRootless ht
      rw [isRootless_pathAfterAuthority] at hrooted
      cases hrooted
  | @rooted t' hspecial =>
    have hpath := Path.wellFormed_read scheme false t'
    rw [hspecial, Scheme.isFile_of_not_isSpecial hspecial] at hpath
    refine wellFormed_complete hscheme (fun a ha ↦ by cases ha) (fun h ↦ ?_) hpath
      (fun _ ↦ Path.dotFree_of_mem_read fun h ↦ by cases h) fun t ht ↦ by cases ht
    rw [hspecial] at h
    exact absurd h (by simp)
  | rootless hspecial hbody =>
    have hdelimiters := (Reference.avoids_body t).withoutBreaks
    refine wellFormed_complete hscheme (fun a ha ↦ by cases ha) (fun h ↦ ?_)
      (wellFormed_rootless hspecial hbody hdelimiters) (fun _ ↦ List.forall_mem_nil _)
      fun path hpath hquery hfragment hlast ↦ ?_
    · rw [hspecial] at h
      exact absurd h (by simp)
    · -- a space at the end was trimmed off the body, and encoding writes none
      cases hpath
      rcases Text.getLast?_percentEncode (Option.mem_def.mpr hlast) with hspace | hspace
      · cases Reference.getLast?_plain_body hquery hfragment _ hspace
      · revert hspace
        decide
  | @file host t' hfile hhost ht =>
    have hspecial := Scheme.isSpecial_of_isFile hfile
    have hpath := Path.wellFormed_read scheme true t'
    rw [hspecial, hfile] at hpath
    refine wellFormed_complete hscheme (fun a ha ↦ ?_) (fun _ ↦ rfl) hpath
      (fun hnot ↦ absurd hspecial (by simp [hnot])) fun t ht ↦ by cases ht
    cases ha
    refine Authority.wellFormed_ofHost ?_ ?_
    · rcases hhost with hnone | ⟨hvalid, -⟩
      · exact .inr ⟨hfile, hnone⟩
      · rw [hspecial]
        exact .inl hvalid
    · rcases hhost with rfl | ⟨-, hlocal⟩
      · decide
      · exact hlocal

/-- **A URL that was read is well-formed.** -/
theorem wellFormed_of_parse {t : Text} (h : parse none t = .ok u) : u.WellFormed := by
  obtain ⟨scheme, hscheme, hdenotes⟩ := denotes_of_parse h
  exact wellFormed_of_denotes hscheme hdenotes

/-- A URL that was read has a mark in front of its path exactly where it needs one. -/
theorem dotMark_of_parse {t : Text} (h : parse none t = .ok u) :
    u.dotMark = needsDotMark u.authority u.path := by
  obtain ⟨scheme, -, hdenotes⟩ := denotes_of_parse h
  cases hdenotes <;> rfl

/-- A URL that was read without a host has no credentials. -/
theorem password_of_parse {t : Text} (h : parse none t = .ok u) {a : Authority}
    (ha : u.authority = some a) (hnone : a.host = .none) : a.password = [] := by
  obtain ⟨scheme, -, hdenotes⟩ := denotes_of_parse h
  cases hdenotes with
  | withAuthority hfile hread =>
    cases ha
    exact (wellFormed_of_readAuthority hfile hread).2 hnone
  | rooted hspecial => cases ha
  | rootless hspecial hbody => cases ha
  | file hfile hhost ht =>
    cases ha
    rfl

/-- The path of a URL that was read has no dots, unless it is a file URL and breaks were in the
text. -/
theorem dotFree_of_parse {t : Text} (h : parse none t = .ok u)
    (ht : u.scheme.isFile = true → Text.Avoids Text.isBreak t) :
    ∀ x ∈ u.path.segmentList, Path.DotFree x := by
  obtain ⟨scheme, -, hdenotes⟩ := denotes_of_parse h
  cases hdenotes with
  | withAuthority hfile hread =>
    exact dotFree_pathAfterAuthority hfile _
  | rooted hspecial =>
    simp only [complete]
    exact Path.dotFree_of_mem_read fun h ↦ by cases h
  | rootless hspecial hbody =>
    intro x hx
    cases hx
  | file hfile hhost hsub =>
    simp only [complete]
    exact Path.dotFree_of_mem_read fun _ ↦
      (ht hfile).of_subset fun c hc ↦ Reference.body_subset t (hsub hc)

end Url

end UrlCalculus
