import UrlCalculus.Proofs.FieldSet.SearchParams
import UrlCalculus.Proofs.Url.Repeated

/-!
# The fields of a set in groups

Behind the scheme, the fields go into a URL in three groups: the credentials, the host with the
port, and the rest. The first two change the front of the URL only, and neither looks at what the
other one puts in place, but for the host: credentials and a port are refused where there is none,
and a host is not removed where a user name or a port is left. The last group changes the rest only.

Put in place a second time, the last group changes nothing. Credentials that were refused are taken
when a host has come along, and a host that could not be removed goes when the port has gone.
-/

namespace UrlCalculus

namespace FieldSet

variable {f : FieldSet} {host : String} {u v : Url}

/-! ## The groups -/

def applyCredentials (f : FieldSet) (u : Url) : Url :=
  (u.tryField Url.setUsername f.username).tryField Url.setPassword f.password

def applyPort (f : FieldSet) (u : Url) : Url :=
  u.tryField Url.setPort (f.port.map Port.toString)

def applyHost (f : FieldSet) (host : String) (u : Url) : Url :=
  f.applyPort (u.tryField Url.setHost (some host))

def applyRest (f : FieldSet) (u : Url) : Url :=
  f.applyHash (f.applySearch (u.tryField Url.setPath f.pathname))

theorem applyTo_eq (f : FieldSet) (host : String) (u : Url) :
    f.applyTo host u =
      f.applyRest (f.applyHost host (f.applyCredentials (u.tryField Url.setScheme f.protocol))) :=
  rfl

/-! ## The credentials -/

/-- A user name or a password in the place of an old one. -/
def userinfoOver (field : Option String) (old : Text) : Text :=
  (field.map fun t ↦ Text.percentEncode .userinfo t.toList).getD old

theorem userinfoOver_userinfoOver (field : Option String) (old : Text) :
    userinfoOver field (userinfoOver field old) = userinfoOver field old := by
  cases field <;> rfl

theorem userinfoOver_nil_iff {field : Option String} :
    userinfoOver field [] = [] ↔ ∀ t, field = some t → t = "" := by
  rw [userinfoOver]
  cases field with
  | none => simp
  | some t =>
    rw [Option.map_some, Option.getD_some, Text.percentEncode_eq_nil_iff, String.toList_eq_nil_iff]
    simp

theorem applyCredentials_of_not_admits (h : u.admitsCredentials = false) :
    f.applyCredentials u = u := by
  have husername : u.tryField Url.setUsername f.username = u := by
    cases f.username with
    | none => rfl
    | some t => simp [Url.tryField, Url.setUsername, h]
  rw [applyCredentials, husername]
  cases f.password with
  | none => rfl
  | some t => simp [Url.tryField, Url.setPassword, h]

theorem applyCredentials_of_admits {a : Authority} (h : u.admitsCredentials = true)
    (ha : u.authority = some a) :
    f.applyCredentials u = { u with authority := some { a with
      username := userinfoOver f.username a.username
      password := userinfoOver f.password a.password } } := by
  obtain ⟨scheme, authority, dotMark, path, query, fragment⟩ := u
  cases ha
  have husername : Url.tryField Url.setUsername f.username
      ⟨scheme, some a, dotMark, path, query, fragment⟩ =
        ⟨scheme, some { a with username := userinfoOver f.username a.username }, dotMark, path,
          query, fragment⟩ := by
    rw [userinfoOver]
    cases f.username with
    | none => rfl
    | some t =>
      rw [Url.tryField, Url.setUsername, if_pos (by exact h)]
      rfl
  rw [applyCredentials, husername, userinfoOver]
  cases f.password with
  | none => rfl
  | some t =>
    rw [Url.tryField, Url.setPassword, if_pos (by exact h)]
    rfl

theorem credentials_applyCredentials (h : u.admitsCredentials = true) :
    (f.applyCredentials u).credentials =
      (userinfoOver f.username u.credentials.1, userinfoOver f.password u.credentials.2) := by
  obtain ⟨a, ha⟩ := Url.exists_authority_of_hasHost (Url.hasHost_of_admitsCredentials h)
  rw [applyCredentials_of_admits h ha, Url.credentials, Url.credentials, ha]
  rfl

theorem applyCredentials_eq_self_iff :
    f.applyCredentials u = u ↔ (f.applyCredentials u).credentials = u.credentials := by
  refine ⟨fun h ↦ by rw [h], fun h ↦ ?_⟩
  cases hadmits : u.admitsCredentials with
  | false => exact applyCredentials_of_not_admits hadmits
  | true =>
    obtain ⟨a, ha⟩ := Url.exists_authority_of_hasHost (Url.hasHost_of_admitsCredentials hadmits)
    rw [credentials_applyCredentials hadmits, Url.credentials, ha] at h
    obtain ⟨husername, hpassword⟩ := Prod.mk.inj h
    rw [Option.getD_some] at husername hpassword
    rw [applyCredentials_of_admits hadmits ha, husername, hpassword, ← ha]

theorem scheme_applyCredentials (f : FieldSet) (u : Url) :
    (f.applyCredentials u).scheme = u.scheme := by
  cases h : u.admitsCredentials with
  | false => rw [applyCredentials_of_not_admits h]
  | true =>
    obtain ⟨a, ha⟩ := Url.exists_authority_of_hasHost (Url.hasHost_of_admitsCredentials h)
    rw [applyCredentials_of_admits h ha]

/-! ## The host and the port -/

theorem applyPort_cases (f : FieldSet) (u : Url) :
    f.applyPort u = u ∨ u.admitsCredentials = true ∧ ∃ p, f.applyPort u = u.putPort p ∧
      ∀ v : Url, v.scheme = u.scheme → v.admitsCredentials = true →
        f.applyPort v = v.putPort p := by
  unfold applyPort
  cases f.port with
  | none => exact .inl rfl
  | some p =>
    simp only [Option.map_some, Url.tryField]
    cases h : u.setPort p.toString.toList with
    | none => exact .inl rfl
    | some v =>
      obtain ⟨hadmits, port, hread, rfl⟩ := Url.setPort_eq_some_iff.mp h
      refine .inr ⟨hadmits, port, rfl, fun v hscheme hv ↦ ?_⟩
      rw [← hscheme] at hread
      have hset := Url.setPort_eq_some_iff.mpr ⟨hv, port, hread, rfl⟩
      exact congrArg (·.getD v) hset

theorem applyPort_applyPort (f : FieldSet) (u : Url) :
    f.applyPort (f.applyPort u) = f.applyPort u := by
  rcases f.applyPort_cases u with h | ⟨hadmits, p, h, hagain⟩
  · rw [h, h]
  · have hadmits' := (u.admitsCredentials_putPort p).trans hadmits
    rw [h, hagain (u.putPort p) rfl hadmits', Url.putPort_putPort]

theorem applyPort_of_hasHost_eq_false (f : FieldSet) (h : u.hasHost = false) :
    f.applyPort u = u := by
  refine (f.applyPort_cases u).resolve_right fun hput ↦ ?_
  rw [Url.hasHost_of_admitsCredentials hput.1] at h
  cases h

theorem hasHost_applyPort (f : FieldSet) (u : Url) : (f.applyPort u).hasHost = u.hasHost := by
  rcases f.applyPort_cases u with h | ⟨-, p, h, -⟩ <;> rw [h]
  exact u.hasHost_putPort p

theorem scheme_applyPort (f : FieldSet) (u : Url) : (f.applyPort u).scheme = u.scheme := by
  rcases f.applyPort_cases u with h | ⟨-, p, h, -⟩ <;> rw [h]
  rfl

theorem path_applyPort (f : FieldSet) (u : Url) : (f.applyPort u).path = u.path := by
  rcases f.applyPort_cases u with h | ⟨-, p, h, -⟩ <;> rw [h]
  rfl

theorem credentials_applyPort (f : FieldSet) (u : Url) :
    (f.applyPort u).credentials = u.credentials := by
  rcases f.applyPort_cases u with h | ⟨-, p, h, -⟩
  · rw [h]
  · rw [h, Url.credentials_putPort]

theorem applyHost_of_setHost (h : u.setHost host.toList = some v) :
    f.applyHost host u = f.applyPort v := by
  rw [applyHost, Url.tryField, h]
  rfl

/-- Either a host is put in place, or it is refused, now and by every URL that is not less in need
of a host. -/
theorem applyHost_cases (f : FieldSet) (host : String) (u : Url) :
    (∃ h port, u.path.isRootless = false ∧
      u.readNewHost (Text.withoutBreaks host.toList) = some (h, port) ∧
      (h = .none → u.needsHost port = false) ∧
      f.applyHost host u = f.applyPort (u.putHost h port)) ∨
    (∀ v : Url, v.scheme = u.scheme → v.path.isRootless = u.path.isRootless →
      (∀ port, v.readNewHost (Text.withoutBreaks host.toList) = some (.none, port) →
        v.needsHost port = false → u.needsHost port = false) →
      f.applyHost host v = f.applyPort v) := by
  cases hset : u.setHost host.toList with
  | some v =>
    obtain ⟨hrooted, h, port, hread, hneeds, rfl⟩ := Url.setHost_eq_some_iff.mp hset
    exact .inl ⟨h, port, hrooted, hread, hneeds, applyHost_of_setHost hset⟩
  | none =>
    refine .inr fun v hscheme hpath hneeded ↦ ?_
    have hnone : v.setHost host.toList = none := by
      by_contra hsome
      obtain ⟨w, hw⟩ := Option.ne_none_iff_exists'.mp hsome
      obtain ⟨hrooted, h, port, hread, hneeds, -⟩ := Url.setHost_eq_some_iff.mp hw
      have hread' := (Url.readNewHost_congr hscheme _).symm.trans hread
      have hneeds' : h = .none → u.needsHost port = false := fun hempty ↦
        hneeded port (hempty ▸ hread) (hneeds hempty)
      rw [Url.setHost_eq_some_iff.mpr ⟨hpath ▸ hrooted, h, port, hread', hneeds', rfl⟩] at hset
      cases hset
    rw [applyHost, Url.tryField, hnone]
    rfl

theorem scheme_applyHost (f : FieldSet) (host : String) (u : Url) :
    (f.applyHost host u).scheme = u.scheme := by
  rcases f.applyHost_cases host u with ⟨h, port, -, -, -, hy⟩ | hrefused
  · rw [hy, scheme_applyPort]
    rfl
  · rw [hrefused u rfl rfl fun _ _ h ↦ h, scheme_applyPort]

theorem credentials_applyHost (f : FieldSet) (host : String) (u : Url) :
    (f.applyHost host u).credentials = u.credentials := by
  rcases f.applyHost_cases host u with ⟨h, port, -, -, -, hy⟩ | hrefused
  · rw [hy, credentials_applyPort, Url.credentials_putHost]
  · rw [hrefused u rfl rfl fun _ _ h ↦ h, credentials_applyPort]

/-! ## The front, whatever the rest is -/

section WithRest

variable {path : Path} {query fragment : Option Text}

theorem applyCredentials_withRest (f : FieldSet) (u : Url) :
    f.applyCredentials (u.withRest path query fragment) =
      (f.applyCredentials u).withRest path query fragment := by
  rw [applyCredentials, Url.tryField_withRest Url.setUsername_withRest,
    Url.tryField_withRest Url.setPassword_withRest]
  rfl

theorem applyHost_withRest (f : FieldSet) (host : String)
    (hpath : path.isRootless = u.path.isRootless) :
    f.applyHost host (u.withRest path query fragment) =
      (f.applyHost host u).withRest path query fragment := by
  rw [applyHost, Url.tryField_withRest (Url.setHost_withRest hpath), applyPort,
    Url.tryField_withRest Url.setPort_withRest]
  rfl

end WithRest

theorem path_applyCredentials (f : FieldSet) (u : Url) : (f.applyCredentials u).path = u.path := by
  have hself : u.withRest u.path u.query u.fragment = u := rfl
  rw [← hself, applyCredentials_withRest]
  rfl

theorem wellFormed_applyCredentials (hu : u.WellFormed) : (f.applyCredentials u).WellFormed := by
  have husername :=
    Url.wellFormed_tryField Url.setUsername Url.wellFormed_setUsername f.username hu
  exact Url.wellFormed_tryField Url.setPassword Url.wellFormed_setPassword f.password husername

theorem wellFormed_applyHost (hu : u.WellFormed) : (f.applyHost host u).WellFormed := by
  have hhost := Url.wellFormed_tryField Url.setHost Url.wellFormed_setHost (some host) hu
  exact Url.wellFormed_tryField Url.setPort Url.wellFormed_setPort (f.port.map Port.toString) hhost

/-! ## Put in place again -/

/-- Put in place again, credentials stay as they are, unless there was no host for them before. -/
theorem applyCredentials_again_iff (hv : f.applyHost host (f.applyCredentials u) = v)
    (hhostless : u.hasHost = false → u.credentials = ([], [])) :
    f.applyCredentials v = v ↔ (u.isFile = false → u.hasHost = false → v.hasHost = true →
      (∀ t, f.username = some t → t = "") ∧ ∀ t, f.password = some t → t = "") := by
  have hscheme : v.scheme = u.scheme := by
    rw [← hv, scheme_applyHost, scheme_applyCredentials]
  have hcredentials : v.credentials = (f.applyCredentials u).credentials := by
    rw [← hv, credentials_applyHost]
  cases hadmits : v.admitsCredentials with
  | false =>
    refine iff_of_true (applyCredentials_of_not_admits hadmits) fun hfile _ hhas ↦ ?_
    rw [Url.admitsCredentials, hhas, Url.isFile, hscheme, ← Url.isFile, hfile] at hadmits
    cases hadmits
  | true =>
    obtain ⟨hhost, hfile⟩ := Url.of_admitsCredentials hadmits
    have hhas := Url.hasHost_iff.mpr hhost
    have hfile' : u.isFile = false := by
      rw [Url.isFile, ← hscheme]
      exact hfile
    rw [applyCredentials_eq_self_iff, credentials_applyCredentials hadmits, hcredentials]
    cases hold : u.hasHost with
    | true =>
      have hadmits' : u.admitsCredentials = true := by
        rw [Url.admitsCredentials, hold, hfile']
        rfl
      rw [credentials_applyCredentials hadmits', userinfoOver_userinfoOver,
        userinfoOver_userinfoOver]
      exact iff_of_true rfl fun _ h ↦ by cases h
    | false =>
      have hnot : u.admitsCredentials = false := by
        rw [Url.admitsCredentials, hold]
        rfl
      rw [applyCredentials_of_not_admits hnot, hhostless hold, Prod.mk.injEq,
        userinfoOver_nil_iff, userinfoOver_nil_iff]
      simp [hfile', hhas]

/-- A host that was put in place stays there, and so does the port that came after it. -/
theorem applyHost_applyPort_putHost {h : Host} {port : Option (Option PortNumber)}
    (hrooted : u.path.isRootless = false)
    (hread : u.readNewHost (Text.withoutBreaks host.toList) = some (h, port))
    (hneeds : h = .none → u.needsHost port = false) :
    f.applyHost host (f.applyPort (u.putHost h port)) = f.applyPort (u.putHost h port) := by
  rcases f.applyPort_cases (u.putHost h port) with hport | ⟨hadmits, p, hport, hagain⟩
  · have hset : (u.putHost h port).setHost host.toList =
        some ((u.putHost h port).putHost h port) :=
      Url.setHost_eq_some_iff.mpr
        ⟨hrooted, h, port, hread, fun hnone ↦ Url.needsHost_putHost (hneeds hnone), rfl⟩
    rw [hport, applyHost_of_setHost hset, Url.putHost_putHost, hport]
  · have hhost := (Url.of_admitsCredentials hadmits).1
    have hset : ((u.putHost h port).putPort p).setHost host.toList =
        some (((u.putHost h port).putPort p).putHost h port) :=
      Url.setHost_eq_some_iff.mpr ⟨hrooted, h, port, hread, fun hnone ↦ absurd hnone hhost, rfl⟩
    rw [hport, applyHost_of_setHost hset,
      hagain (((u.putHost h port).putPort p).putHost h port) rfl hadmits,
      Url.putPort_putHost_putPort]

/-- Put in place again, a host and a port stay as they are, unless the host is removed now. It was
needed before for a port that is gone. -/
theorem applyHost_again_iff (hv : f.applyHost host u = v) (hwf : v.WellFormed) :
    f.applyHost host v = v ↔ (v.hasHost = true → ∀ port,
      v.readNewHost (Text.withoutBreaks host.toList) = some (.none, port) →
        v.needsHost port = true) := by
  constructor
  · intro hfixed hhas port hread
    by_contra hneeds
    obtain ⟨a, ha⟩ := Url.exists_authority_of_hasHost hhas
    have hset := Url.setHost_eq_some_iff.mpr ⟨hwf.isRootless_eq_false ha, .none, port, hread,
      fun _ ↦ by simpa using hneeds, rfl⟩
    rw [applyHost_of_setHost hset, applyPort_of_hasHost_eq_false f rfl] at hfixed
    rw [← hfixed] at hhas
    cases hhas
  · intro hkept
    rcases f.applyHost_cases host u with ⟨h, port, hrooted, hread, hneeds, hput⟩ | hrefused
    · rw [← hv, hput]
      exact applyHost_applyPort_putHost hrooted hread hneeds
    · have hport : f.applyPort u = v := (hrefused u rfl rfl fun _ _ h ↦ h).symm.trans hv
      rw [hrefused v (by rw [← hport, scheme_applyPort]) (by rw [← hport, path_applyPort]), ← hport,
        applyPort_applyPort]
      -- what refused the removal before refuses it again
      intro port hread hfree
      cases hhas : v.hasHost with
      | true =>
        rw [hkept hhas port hread] at hfree
        cases hfree
      | false =>
        have hnone : u.hasHost = false := by rw [← f.hasHost_applyPort, hport, hhas]
        rwa [← hport, applyPort_of_hasHost_eq_false f hnone] at hfree

/-! ## The rest -/

/-- A fragment is put in place whatever the rest is, if there is one to put in place. -/
theorem applyHash_eq_or (f : FieldSet) :
    (∀ u, f.applyHash u = u) ∨ ∃ t, ∀ u, f.applyHash u = { u with fragment := some t } := by
  unfold applyHash
  cases f.hash with
  | none => exact .inl fun u ↦ rfl
  | some hash =>
    by_cases hempty : hash = ""
    · subst hempty
      exact .inl fun u ↦ rfl
    · obtain ⟨c, t, ht⟩ := List.exists_cons_of_ne_nil (mt String.toList_eq_nil_iff.mp hempty)
      refine .inr ⟨Text.percentEncode .fragment
        (Text.withoutBreaks (Text.dropOne (· == '#') (c :: t))), fun u ↦ ?_⟩
      simp only [ht]
      rfl

/-- A query is put in place in one way, if there is one to put in place. -/
theorem applySearch_eq_or (f : FieldSet) :
    (∀ u, f.applySearch u = u) ∨ ∃ t, ∀ u, f.applySearch u = u.setQuery t := by
  unfold applySearch
  cases f.searchParams with
  | some pairs => exact .inr ⟨_, fun u ↦ rfl⟩
  | none =>
    cases f.search with
    | some search => exact .inr ⟨_, fun u ↦ rfl⟩
    | none => exact .inl fun u ↦ rfl

theorem sameFront_applySearch (f : FieldSet) (u : Url) : Url.SameFront u (f.applySearch u) := by
  rcases f.applySearch_eq_or with h | ⟨t, h⟩ <;> rw [h]
  · exact .refl u
  · exact Url.sameFront_setQuery u t

theorem sameFront_applyHash (f : FieldSet) (u : Url) : Url.SameFront u (f.applyHash u) := by
  rcases f.applyHash_eq_or with h | ⟨t, h⟩ <;> rw [h]
  · exact .refl u
  · exact ⟨rfl, rfl, rfl, rfl⟩

theorem sameFront_applyRest (f : FieldSet) (u : Url) : Url.SameFront u (f.applyRest u) :=
  ((Url.sameFront_setPath f.pathname u).trans (sameFront_applySearch f _)).trans
    (sameFront_applyHash f _)

theorem path_applySearch (f : FieldSet) (h : u.path.isRootless = false) :
    (f.applySearch u).path = u.path := by
  rcases f.applySearch_eq_or with hsame | ⟨t, ht⟩
  · rw [hsame]
  · rw [ht, Url.path_setQuery h]

theorem path_applyHash (f : FieldSet) (u : Url) : (f.applyHash u).path = u.path := by
  rcases f.applyHash_eq_or with h | ⟨t, h⟩ <;> rw [h]

theorem applyHash_applyHash (f : FieldSet) (u : Url) :
    f.applyHash (f.applyHash u) = f.applyHash u := by
  rcases f.applyHash_eq_or with h | ⟨t, h⟩ <;> rw [h, h]

/-- A path, a query and a fragment stay when they are put in place again. -/
theorem applyRest_applyRest (f : FieldSet) (hwf : (f.applyRest u).WellFormed) :
    f.applyRest (f.applyRest u) = f.applyRest u := by
  have hpath : (f.applyRest u).tryField Url.setPath f.pathname = f.applyRest u := by
    cases hfield : f.pathname with
    | none => rfl
    | some s =>
      rw [Url.tryField, Url.setPath_of_sameFront (sameFront_applyRest f u)]
      cases hset : u.setPath s.toList with
      | none => rfl
      | some v =>
        obtain ⟨-, hrooted, hv⟩ := Url.of_setPath hset
        have hkept : (f.applyRest u).path = v.path := by
          rw [applyRest, hfield, Url.tryField, hset, path_applyHash]
          exact path_applySearch f hrooted
        rw [Option.map_some, Option.getD_some, ← hkept]
  have hquery : (f.applyRest u).query =
      (f.applySearch (u.tryField Url.setPath f.pathname)).query := query_applyHash f _
  have hscheme : (f.applyRest u).scheme = (u.tryField Url.setPath f.pathname).scheme :=
    ((sameFront_applySearch f _).trans (sameFront_applyHash f _)).scheme
  have hsearch : f.applySearch (f.applyRest u) = f.applyRest u := by
    rcases f.applySearch_eq_or with hsame | ⟨t, ht⟩
    · exact hsame _
    · rw [ht] at hquery ⊢
      exact hwf.setQuery_eq_self hscheme hquery
  calc f.applyRest (f.applyRest u)
      = f.applyHash (f.applySearch ((f.applyRest u).tryField Url.setPath f.pathname)) := rfl
    _ = f.applyHash (f.applyRest u) := by rw [hpath, hsearch]
    _ = f.applyRest u := applyHash_applyHash f _

end FieldSet

end UrlCalculus
