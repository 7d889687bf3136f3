import UrlCalculus.Proofs.Url.WellFormed
import UrlCalculus.Url.Update

/-!
# Changes keep URLs well-formed

Each function that changes one part of a URL takes well-formed URLs to well-formed ones: what it
puts in place was read and encoded for that place, and what it leaves alone still fits. A new scheme
is of the same kind as the old one, and a host is removed only where no user name and no port
depends on it.
-/

namespace UrlCalculus

namespace Path

variable {s s' : Scheme} {hasAuthority : Bool} {p : Path}

/-- A path fits every scheme of the same kind that is not the file scheme. -/
theorem WellFormed.of_scheme (h : p.WellFormed s hasAuthority)
    (hspecial : s'.isSpecial = s.isSpecial) (hfile : s'.isFile = false) :
    p.WellFormed s' hasAuthority := by
  cases p with
  | rootless t => exact ⟨hspecial.trans h.1, h.2⟩
  | segments ss =>
    refine ⟨?_, ?_, fun hf ↦ ?_⟩
    · rw [hspecial]
      exact h.1
    · rw [hspecial]
      exact h.2.1
    · rw [hfile] at hf
      exact absurd hf (by simp)

/-- A path behind a slash fits an authority. -/
theorem WellFormed.of_authority (h : p.WellFormed s hasAuthority) (hrooted : p.isRootless = false) :
    p.WellFormed s true := by
  cases p with
  | rootless t => cases hrooted
  | segments ss => exact ⟨h.1, fun hnil ↦ ⟨(h.2.1 hnil).1, rfl⟩, h.2.2⟩

end Path

/-- An authority fits every scheme of the same kind, up to the port that becomes the default one. A
file URL's authority is one that can do without a host, which no other special URL can. -/
theorem Authority.WellFormed.of_scheme {s s' : Scheme} {a : Authority} (ha : a.WellFormed s)
    (hspecial : s'.isSpecial = s.isSpecial) (hfile : s'.isFile = false)
    (hhost : s'.isSpecial = true → a.host ≠ .none) :
    { a with port := withoutDefault s' a.port }.WellFormed s' where
  username_avoids := ha.username_avoids
  password_avoids := ha.password_avoids
  host_valid := by
    rcases ha.host_valid with hvalid | ⟨hisFile, hnone⟩
    · rw [hspecial]
      exact .inl hvalid
    · exact absurd hnone (hhost (hspecial.trans (Scheme.isSpecial_of_isFile hisFile)))
  port_written := withoutDefault_withoutDefault s' a.port
  hostless hnone := by
    obtain ⟨husername, hport⟩ := ha.hostless hnone
    refine ⟨husername, ?_⟩
    rw [hport]
    exact withoutDefault_none s'
  file h := by
    rw [hfile] at h
    exact absurd h (by simp)

namespace Url

variable {u v : Url} {t : Text}

theorem hasHost_iff : u.hasHost = true ↔ u.host ≠ .none := by
  rw [hasHost, Bool.not_eq_true', Host.isNone_eq_false_iff]

/-! ## The scheme -/

theorem querySet_congr {s s' : Scheme} (h : s'.isSpecial = s.isSpecial) :
    querySet s' = querySet s := by
  rw [querySet, querySet, h]

theorem wellFormed_setScheme (hu : u.WellFormed) (h : u.setScheme t = some v) : v.WellFormed := by
  rw [setScheme, Option.bind_eq_bind, Option.bind_eq_some_iff] at h
  obtain ⟨scheme, hscheme, h⟩ := h
  split at h
  · exact absurd h (by simp)
  · rename_i hadmitted
    simp only [not_or, ne_eq, Decidable.not_not, not_and, Bool.not_eq_true', Bool.not_eq_false]
      at hadmitted
    obtain ⟨hspecial, hnotFile, hhost⟩ := hadmitted
    have hfile : scheme.isFile = false := by simpa using hnotFile
    cases h
    refine
      { scheme_written := Scheme.ofText?_ofText? hscheme
        authority_wellFormed := fun a' ha' ↦ ?_
        authority_isSome := fun h ↦ ?_
        path_wellFormed := ?_
        path_dotFree := fun h ↦ hu.path_dotFree (hspecial.symm.trans h)
        path_firm := hu.path_firm
        dotMark_rooted := fun h ↦ ⟨hspecial.trans (hu.dotMark_rooted h).1, (hu.dotMark_rooted h).2⟩
        query_avoids := fun q hq ↦ ?_
        fragment_avoids := hu.fragment_avoids }
    · obtain ⟨a, ha, rfl⟩ := Option.map_eq_some_iff.mp ha'
      refine (hu.authority_wellFormed a ha).of_scheme hspecial hfile fun h ↦ ?_
      rw [← host_eq ha]
      exact hasHost_iff.mp (hhost h)
    · rw [Option.isSome_map]
      exact hu.authority_isSome (hspecial.symm.trans h)
    · rw [Option.isSome_map]
      exact hu.path_wellFormed.of_scheme hspecial hfile
    · rw [querySet_congr hspecial]
      exact hu.query_avoids q hq

/-! ## The authority -/

/-- Another authority fits a path that is not rootless. -/
theorem WellFormed.with_authority (hu : u.WellFormed) (hrooted : u.path.isRootless = false)
    {a : Authority} (ha : a.WellFormed u.scheme) {dotMark : Bool}
    (hmark : dotMark = true → u.dotMark = true) :
    { u with authority := some a, dotMark }.WellFormed where
  scheme_written := hu.scheme_written
  authority_wellFormed a' ha' := by
    cases ha'
    exact ha
  authority_isSome _ := rfl
  path_wellFormed := hu.path_wellFormed.of_authority hrooted
  path_dotFree := hu.path_dotFree
  path_firm := hu.path_firm
  dotMark_rooted h := hu.dotMark_rooted (hmark h)
  query_avoids := hu.query_avoids
  fragment_avoids := hu.fragment_avoids

/-- A change of the authority that keeps it well-formed keeps the URL well-formed. -/
theorem WellFormed.updateAuthority (hu : u.WellFormed) {f : Authority → Authority}
    (hf : ∀ a, u.authority = some a → a.WellFormed u.scheme → (f a).WellFormed u.scheme)
    {dotMark : Bool} (hmark : dotMark = true → u.dotMark = true) :
    { u.updateAuthority f with dotMark }.WellFormed := by
  cases ha : u.authority with
  | none =>
    have hself : { u.updateAuthority f with dotMark } = { u with dotMark } := by
      rw [Url.updateAuthority, ha, Option.map_none]
    rw [hself]
    exact { hu with dotMark_rooted := fun h ↦ hu.dotMark_rooted (hmark h) }
  | some a =>
    have hself : { u.updateAuthority f with dotMark } =
        { u with authority := some (f a), dotMark } := by
      rw [Url.updateAuthority, ha, Option.map_some]
    rw [hself]
    exact hu.with_authority (hu.isRootless_eq_false ha) (hf a ha (hu.authority_wellFormed a ha))
      hmark

/-- What a URL that admits credentials and a port has. -/
theorem of_admitsCredentials (h : u.admitsCredentials = true) :
    u.host ≠ .none ∧ u.scheme.isFile = false := by
  rw [admitsCredentials, Bool.and_eq_true, Bool.not_eq_true'] at h
  exact ⟨hasHost_iff.mp h.1, h.2⟩

theorem wellFormed_setUsername (hu : u.WellFormed) (h : u.setUsername t = some v) :
    v.WellFormed := by
  rw [setUsername] at h
  split at h
  · rename_i hadmits
    obtain ⟨hhost, hfile⟩ := of_admitsCredentials hadmits
    cases h
    refine hu.updateAuthority (fun a ha hwf ↦ ?_) id
    exact
      { hwf with
        username_avoids := Text.avoids_percentEncode_self Text.avoids_encodingChars_userinfo t
        hostless := fun hnone ↦ absurd ((host_eq ha).trans hnone) hhost
        file := fun h ↦ absurd h (by simp [hfile]) }
  · exact absurd h (by simp)

theorem wellFormed_setPassword (hu : u.WellFormed) (h : u.setPassword t = some v) :
    v.WellFormed := by
  rw [setPassword] at h
  split at h
  · rename_i hadmits
    obtain ⟨-, hfile⟩ := of_admitsCredentials hadmits
    cases h
    refine hu.updateAuthority (fun a ha hwf ↦ ?_) id
    exact
      { hwf with
        password_avoids := Text.avoids_percentEncode_self Text.avoids_encodingChars_userinfo t
        file := fun h ↦ absurd h (by simp [hfile]) }
  · exact absurd h (by simp)

/-! ## The host and the port -/

theorem withoutDefault_of_readNewPort {s : Scheme} {port : Option PortNumber}
    (h : readNewPort s t = some port) : withoutDefault s port = port := by
  rw [readNewPort] at h
  split at h
  · cases h
    exact withoutDefault_withoutDefault s _
  · cases h
    exact withoutDefault_none s
  · exact absurd h (by simp)
  · exact absurd h (by simp)

/-- A new host of a file URL comes without a port, and is not the local one. -/
theorem of_readNewHost {host : Host} {port : Option (Option PortNumber)}
    (h : u.readNewHost t = some (host, port)) :
    (host.Valid u.scheme.isSpecial ∨ u.scheme.isFile = true ∧ host = .none) ∧
      (u.scheme.isFile = true → port = none ∧ host ≠ localhost) ∧
      ∀ p, port = some p → withoutDefault u.scheme p = p := by
  rw [readNewHost] at h
  cases hfile : u.scheme.isFile with
  | true =>
    rw [if_pos (show u.isFile = true from hfile)] at h
    split at h
    · rename_i found hread
      cases h
      rw [Scheme.isSpecial_of_isFile hfile]
      rcases of_readFileHost hread with rfl | ⟨hvalid, hlocal⟩
      · exact ⟨.inr ⟨rfl, rfl⟩, fun _ ↦ ⟨rfl, by decide⟩, nofun⟩
      · exact ⟨.inl hvalid, fun _ ↦ ⟨rfl, hlocal⟩, nofun⟩
    · exact absurd h (by simp)
  | false =>
    have hnot : ¬u.isFile = true := by simp [isFile, hfile]
    rw [if_neg hnot] at h
    split at h
    · rename_i found rest hread
      cases h
      refine ⟨.inl (valid_of_readHost hread), nofun, fun p hp ↦ ?_⟩
      split at hp
      · exact absurd hp (by simp)
      · exact withoutDefault_of_readNewPort hp
    · rename_i hread
      cases h
      exact ⟨.inl (valid_of_readHost hread), nofun, nofun⟩
    · exact absurd h (by simp)

/-- What is known of the authority that gets a new host: the one that is there, or one without
anything. -/
theorem WellFormed.of_getD_authority (hu : u.WellFormed) {a : Authority}
    (ha : u.authority.getD (.ofHost .none) = a) :
    Text.Avoids EncodeSet.userinfo a.username ∧ Text.Avoids EncodeSet.userinfo a.password ∧
      withoutDefault u.scheme a.port = a.port ∧ (u.scheme.isFile = true → a = .ofHost a.host) := by
  cases hauthority : u.authority with
  | none =>
    rw [hauthority] at ha
    cases ha
    exact ⟨Text.avoids_nil, Text.avoids_nil, withoutDefault_none _, fun _ ↦ rfl⟩
  | some a' =>
    rw [hauthority] at ha
    cases ha
    have hwf := hu.authority_wellFormed a' hauthority
    exact ⟨hwf.username_avoids, hwf.password_avoids, hwf.port_written, fun hf ↦ (hwf.file hf).1⟩

/-- Where no host is needed, there is neither a user name nor a port, old or new. -/
theorem of_needsHost_eq_false {port : Option (Option PortNumber)} (h : u.needsHost port = false)
    {a : Authority} (ha : u.authority.getD (.ofHost .none) = a) :
    a.username = [] ∧ port.getD a.port = none := by
  have hport (old : Option PortNumber) (hold : old = none) (hjoin : port.join = none) :
      port.getD old = none := by
    cases port with
    | none => exact hold
    | some p => exact hjoin
  cases hauthority : u.authority with
  | none =>
    rw [hauthority] at ha
    cases ha
    exact ⟨rfl, hport _ rfl (by simpa [needsHost, hauthority] using h)⟩
  | some a' =>
    rw [hauthority] at ha
    cases ha
    obtain ⟨⟨husername, hold⟩, hjoin⟩ :
        (a'.username = [] ∧ a'.port = none) ∧ port.join = none := by
      simpa [needsHost, hauthority] using h
    exact ⟨husername, hport _ hold hjoin⟩

theorem wellFormed_putHost (hu : u.WellFormed) (hrooted : u.path.isRootless = false)
    {host : Host} {port : Option (Option PortNumber)}
    (hvalid : host.Valid u.scheme.isSpecial ∨ u.scheme.isFile = true ∧ host = .none)
    (hfile : u.scheme.isFile = true → port = none ∧ host ≠ localhost)
    (hport : ∀ p, port = some p → withoutDefault u.scheme p = p)
    (hneeds : host = .none → u.needsHost port = false) : (u.putHost host port).WellFormed := by
  obtain ⟨husername, hpassword, hwritten, hofHost⟩ := hu.of_getD_authority rfl
  refine hu.with_authority hrooted ?_ fun hmark ↦ ?_
  · refine ⟨husername, hpassword, hvalid, ?_, fun hnone ↦ ?_, fun hf ↦ ?_⟩
    · cases port with
      | none => exact hwritten
      | some p => exact hport p rfl
    · exact of_needsHost_eq_false (hneeds hnone) rfl
    · obtain ⟨rfl, hlocal⟩ := hfile hf
      refine ⟨?_, hlocal⟩
      rw [Option.getD_none, hofHost hf]
      rfl
  · rw [Bool.and_eq_true] at hmark
    exact hmark.1

theorem wellFormed_setHost (hu : u.WellFormed) (h : u.setHost t = some v) : v.WellFormed := by
  rw [setHost] at h
  split at h
  · exact absurd h (by simp)
  · rename_i hrooted
    split at h
    · rename_i host port hread
      split at h
      · exact absurd h (by simp)
      · rename_i hneeds
        cases h
        obtain ⟨hvalid, hfile, hport⟩ := of_readNewHost hread
        refine wellFormed_putHost hu (by simpa using hrooted) hvalid hfile hport fun hnone ↦ ?_
        simpa [Host.isNone, hnone] using hneeds
    · exact absurd h (by simp)

theorem wellFormed_setPort (hu : u.WellFormed) (h : u.setPort t = some v) : v.WellFormed := by
  rw [setPort] at h
  split at h
  · rename_i hadmits
    obtain ⟨hhost, hfile⟩ := of_admitsCredentials hadmits
    obtain ⟨port, hread, rfl⟩ := Option.map_eq_some_iff.mp h
    refine hu.updateAuthority (fun a ha hwf ↦ ?_) fun hmark ↦ ?_
    · exact
        { hwf with
          port_written := withoutDefault_of_readNewPort hread
          hostless := fun hnone ↦ absurd ((host_eq ha).trans hnone) hhost
          file := fun h ↦ absurd h (by simp [hfile]) }
    · rw [Bool.and_eq_true] at hmark
      exact hmark.1
  · exact absurd h (by simp)

/-! ## The path -/

theorem wellFormed_replacePath (hu : u.WellFormed)
    (ht : t = [] → u.authority.isSome = true) : (u.replacePath t).WellFormed where
  scheme_written := hu.scheme_written
  authority_wellFormed := hu.authority_wellFormed
  authority_isSome := hu.authority_isSome
  path_wellFormed := by
    have hpath := wellFormed_pathAfterAuthority u.scheme t
    rw [replacePath]
    cases hsome : u.authority.isSome with
    | true => exact hpath
    | false =>
      have hne : t.isEmpty = false := by
        cases t with
        | nil =>
          rw [ht rfl] at hsome
          exact absurd hsome (by simp)
        | cons c t => rfl
      rw [pathAfterAuthority, hne, Bool.and_false, if_neg (by simp)]
      exact Path.wellFormed_read u.scheme false _
  path_dotFree h := dotFree_pathAfterAuthority (Scheme.isFile_of_not_isSpecial h) t
  path_firm t' ht' := by
    have hrooted' := congrArg Path.isRootless ht'
    rw [replacePath, isRootless_pathAfterAuthority] at hrooted'
    cases hrooted'
  dotMark_rooted h := ⟨(hu.dotMark_rooted h).1, isRootless_pathAfterAuthority u.scheme t⟩
  query_avoids := hu.query_avoids
  fragment_avoids := hu.fragment_avoids

theorem wellFormed_setPath (hu : u.WellFormed) (h : u.setPath t = some v) : v.WellFormed := by
  unfold setPath at h
  split at h
  · exact absurd h (by simp)
  · cases t with
    | nil =>
      cases h
      refine wellFormed_replacePath hu fun hempty ↦ ?_
      -- only a URL with a host is left without a path
      cases ha : u.authority with
      | some a => rfl
      | none =>
        have hhost : u.hasHost = false := by simp [hasHost, host, ha, Host.isNone]
        rw [if_pos (by simp [hhost])] at hempty
        exact absurd hempty (by simp)
    | cons c t =>
      simp only at h
      split at h
      · cases h
        exact wellFormed_replacePath hu fun hempty ↦ by cases hempty
      · cases h
        exact wellFormed_replacePath hu fun hempty ↦ by cases hempty

/-! ## The query and the fragment -/

theorem stripped_prefix (p : Char → Bool) (t : Text) : (t.reverse.dropWhile p).reverse <+: t := by
  rw [← List.reverse_suffix, List.reverse_reverse]
  exact List.dropWhile_suffix p

theorem head?_eq_some_of_front {s t : Text} {c : Char} (h : s <+: t) (hs : s.head? = some c) :
    t.head? = some c := by
  obtain ⟨rest, rfl⟩ := h
  rw [List.head?_append, hs, Option.some_or]

theorem query_stripPath (u : Url) : u.stripPath.query = u.query := by
  rw [stripPath]
  split <;> rfl

theorem query_setFragment (u : Url) (t : Text) : (u.setFragment t).query = u.query := by
  rw [setFragment.eq_def]
  split
  · exact query_stripPath _
  · rfl

/-- A query or a fragment is removed, and where the spaces at the end of a path then come to the end
of the URL, they are stripped. -/
theorem wellFormed_stripPath (hu : u.WellFormed) {query fragment : Option Text}
    (hquery : ∀ q, query = some q → u.query = some q)
    (hfragment : ∀ f, fragment = some f → u.fragment = some f) :
    (stripPath { u with query, fragment }).WellFormed := by
  have hqueryAvoids := fun q hq ↦ hu.query_avoids q (hquery q hq)
  have hfragmentAvoids := fun f hf ↦ hu.fragment_avoids f (hfragment f hf)
  rw [stripPath]
  -- only a rootless path at the end is stripped
  split
  · rename_i t ht hq hf
    have hpath := hu.path_wellFormed
    have hmark := hu.dotMark_rooted
    rw [show u.path = .rootless t from ht] at hpath hmark
    obtain ⟨hspecial, hauth, havoids, hhead⟩ := hpath
    have hprefix := stripped_prefix (· == ' ') t
    exact
      { hu with
        path_wellFormed := by
          exact ⟨hspecial, hauth, havoids.of_subset hprefix.subset,
            fun hslash ↦ hhead (head?_eq_some_of_front hprefix hslash)⟩
        path_dotFree := fun _ ↦ List.forall_mem_nil _
        path_firm := by
          rintro t' ⟨⟩ - - hlast
          rw [List.getLast?_reverse] at hlast
          have hkept := List.head?_dropWhile_not (· == ' ') t.reverse
          rw [hlast] at hkept
          exact absurd hkept (by simp)
        dotMark_rooted := hmark
        query_avoids := hqueryAvoids
        fragment_avoids := hfragmentAvoids }
  · rename_i hne
    exact
      { hu with
        path_firm := fun t ht hq hf ↦ absurd hf (hne t ht hq)
        query_avoids := hqueryAvoids
        fragment_avoids := hfragmentAvoids }

theorem wellFormed_setQuery (hu : u.WellFormed) (t : Text) : (u.setQuery t).WellFormed := by
  unfold setQuery
  split
  · exact wellFormed_stripPath hu (fun q hq ↦ by cases hq) fun f hf ↦ hf
  · exact
      { hu with
        path_firm := fun t ht hq ↦ by cases hq
        query_avoids := fun q hq ↦ by
          cases hq
          exact Text.avoids_percentEncode_self (avoids_encodingChars_querySet u.scheme) _ }

theorem wellFormed_setFragment (hu : u.WellFormed) (t : Text) : (u.setFragment t).WellFormed := by
  unfold setFragment
  split
  · exact wellFormed_stripPath hu (fun q hq ↦ hq) fun f hf ↦ by cases hf
  · exact
      { hu with
        path_firm := fun t ht hq hf ↦ by cases hf
        fragment_avoids := fun f hf ↦ by
          cases hf
          exact Text.avoids_percentEncode_self Text.avoids_encodingChars_fragment _ }

end Url

end UrlCalculus
