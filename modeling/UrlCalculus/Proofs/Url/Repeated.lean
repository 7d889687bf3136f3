import UrlCalculus.FieldSet.Apply
import UrlCalculus.Proofs.Url.Network

/-!
# Changing a part of a URL again

A text that a URL has taken for one of its parts changes nothing when it is put there again. A text
that was refused may be taken later, when other parts have changed in between: a scheme, credentials
and a port may want for a host, and a host may be wanted by a port. So each function comes here with
what it takes for its text to be accepted, and with the parts of the URL that it does not look at.

A URL falls into its front, that is the scheme, the authority and the mark behind it, and the rest,
that is the path, the query and the fragment. The functions for the front look at the rest only to
see whether the path is rootless, and those for the rest leave the front alone.
-/

namespace UrlCalculus

namespace Url

variable {u v w : Url} {s : Scheme} {t : Text} {host : Host} {port : Option (Option PortNumber)}

/-! ## The scheme -/

/-- The scheme in front of the first colon of a text. -/
def scheme? (t : Text) : Option Scheme :=
  Scheme.ofText? (Text.withoutBreaks (Text.cut (· == ':') t).1)

theorem network?_eq (t : Text) : Scheme.network? t = (scheme? t).filter Scheme.isNetwork := rfl

/-- Whether a URL can get a scheme: one of its kind, which is not the file scheme and does not want
for a host. -/
structure Admits (u : Url) (s : Scheme) : Prop where
  isSpecial : s.isSpecial = u.isSpecial
  isFile : s.isFile = false
  hasHost : s.isSpecial = true → u.hasHost = true

/-- Put a scheme in place; the port goes when it is the default one. -/
def putScheme (u : Url) (s : Scheme) : Url :=
  { u with
    scheme := s
    authority := u.authority.map fun a ↦ { a with port := withoutDefault s a.port } }

theorem setScheme_eq_some_iff :
    u.setScheme t = some v ↔ ∃ s, scheme? t = some s ∧ u.Admits s ∧ u.putScheme s = v := by
  rw [setScheme, Option.bind_eq_bind, Option.bind_eq_some_iff]
  refine exists_congr fun s ↦ and_congr_right fun hs ↦ ?_
  split
  · rename_i hrefused
    refine iff_of_false (by simp) fun hadmits ↦ ?_
    obtain ⟨⟨hspecial, hfile, hhost⟩, -⟩ := hadmits
    rcases hrefused with hne | htrue | ⟨hspecial', hnone⟩
    · exact hne hspecial
    · rw [hfile] at htrue
      cases htrue
    · rw [hhost hspecial'] at hnone
      cases hnone
  · rename_i hadmitted
    have hadmits : u.Admits s := by
      simp only [not_or, ne_eq, Decidable.not_not, not_and, Bool.not_eq_true', Bool.not_eq_false]
        at hadmitted
      exact ⟨hadmitted.1, by simpa using hadmitted.2.1, hadmitted.2.2⟩
    rw [Option.some.injEq]
    exact (and_iff_right hadmits).symm

theorem tryField_setScheme_eq_or (u : Url) (field : Option String) :
    u.tryField setScheme field = u ∨
      ∃ s, u.Admits s ∧ u.tryField setScheme field = u.putScheme s := by
  cases field with
  | none => exact .inl rfl
  | some t =>
    rw [tryField]
    cases hset : u.setScheme t.toList with
    | none => exact .inl rfl
    | some v =>
      obtain ⟨s, -, hadmits, rfl⟩ := setScheme_eq_some_iff.mp hset
      exact .inr ⟨s, hadmits, rfl⟩

theorem hasHost_putScheme (u : Url) (s : Scheme) : (u.putScheme s).hasHost = u.hasHost := by
  obtain ⟨scheme, authority, dotMark, path, query, fragment⟩ := u
  cases authority <;> rfl

theorem hasHost_tryField_setScheme (u : Url) (field : Option String) :
    (u.tryField setScheme field).hasHost = u.hasHost := by
  rcases u.tryField_setScheme_eq_or field with h | ⟨s, -, h⟩ <;> rw [h]
  exact u.hasHost_putScheme s

/-- Without a host, a file URL stays one, and no other URL becomes one. -/
theorem isFile_tryField_setScheme (h : u.hasHost = false) (field : Option String) :
    (u.tryField setScheme field).isFile = u.isFile := by
  rcases u.tryField_setScheme_eq_or field with hsame | ⟨s, hadmits, hset⟩
  · rw [hsame]
  · have hspecial : s.isSpecial = false := by
      by_contra hs
      rw [hadmits.hasHost (by simpa using hs)] at h
      cases h
    have hu : u.isSpecial = false := hadmits.isSpecial.symm.trans hspecial
    rw [hset, isFile, isFile, Scheme.isFile_of_not_isSpecial hu]
    exact hadmits.isFile

/-- A scheme that is put in place of itself. -/
theorem WellFormed.putScheme_scheme (hu : u.WellFormed) : u.putScheme u.scheme = u := by
  have hauthority : (u.authority.map fun a ↦ { a with port := withoutDefault u.scheme a.port }) =
      u.authority := by
    refine (Option.map_congr fun a ha ↦ ?_).trans Option.map_id'
    rw [(hu.authority_wellFormed a ha).port_written]
  rw [putScheme, hauthority]

theorem WellFormed.tryField_setScheme_eq_self_iff (hu : u.WellFormed) (field : Option String) :
    u.tryField setScheme field = u ↔ (u.tryField setScheme field).scheme = u.scheme := by
  refine ⟨fun h ↦ by rw [h], fun h ↦ ?_⟩
  rcases u.tryField_setScheme_eq_or field with hsame | ⟨s, -, hset⟩
  · exact hsame
  · rw [hset] at h ⊢
    obtain rfl : s = u.scheme := h
    exact hu.putScheme_scheme

theorem WellFormed.hasHost_of_isSpecial (hu : u.WellFormed) (hspecial : u.isSpecial = true)
    (hfile : u.isFile = false) : u.hasHost = true := by
  obtain ⟨a, ha, -, hvalid, -, -⟩ := hu.of_isNetwork (Scheme.isNetwork_iff.mpr ⟨hspecial, hfile⟩)
  refine hasHost_iff.mpr fun hnone ↦ ?_
  rw [← host_eq ha, hnone] at hvalid
  exact hvalid.1 rfl

/-- A scheme that was refused is taken later if it wanted for a host only, and a host has come
along. -/
theorem WellFormed.admits_iff_of_not_admits (hu : u.WellFormed) (hrefused : ¬u.Admits s)
    (hscheme : w.scheme = u.scheme) :
    w.Admits s ↔ s.isNetwork = true ∧ u.isFile = true ∧ u.hasHost = false ∧ w.hasHost = true := by
  have hspecial : w.isSpecial = u.isSpecial := by rw [isSpecial, hscheme, ← isSpecial]
  constructor
  · rintro ⟨hkind, hfile, hhost⟩
    rw [hspecial] at hkind
    have hwanted : s.isSpecial = true ∧ u.hasHost = false := by
      by_contra h
      exact hrefused ⟨hkind, hfile, fun hs ↦ by simpa [hs] using h⟩
    obtain ⟨hs, hnone⟩ := hwanted
    refine ⟨Scheme.isNetwork_iff.mpr ⟨hs, hfile⟩, ?_, hnone, hhost hs⟩
    by_contra hnotFile
    rw [hu.hasHost_of_isSpecial (hkind.symm.trans hs) (by simpa using hnotFile)] at hnone
    cases hnone
  · rintro ⟨hnetwork, hfile, -, hhas⟩
    obtain ⟨hs, hnotFile⟩ := Scheme.isNetwork_iff.mp hnetwork
    refine ⟨?_, hnotFile, fun _ ↦ hhas⟩
    rw [hspecial, hs]
    exact (Scheme.isSpecial_of_isFile hfile).symm

section Field

variable {field : String}

theorem scheme_tryField_of_admits (hs : scheme? field.toList = some s) (h : u.Admits s) :
    (u.tryField setScheme (some field)).scheme = s := by
  rw [tryField, setScheme_eq_some_iff.mpr ⟨s, hs, h, rfl⟩]
  rfl

theorem tryField_of_scheme?_eq_none (hs : scheme? field.toList = none) (u : Url) :
    u.tryField setScheme (some field) = u := by
  rw [tryField]
  cases hset : u.setScheme field.toList with
  | none => rfl
  | some v =>
    obtain ⟨s, hsome, -, -⟩ := setScheme_eq_some_iff.mp hset
    cases hs.symm.trans hsome

theorem tryField_of_not_admits (hs : scheme? field.toList = some s) (h : ¬u.Admits s) :
    u.tryField setScheme (some field) = u := by
  rw [tryField]
  cases hset : u.setScheme field.toList with
  | none => rfl
  | some v =>
    obtain ⟨s', hs', hadmits, -⟩ := setScheme_eq_some_iff.mp hset
    cases hs.symm.trans hs'
    exact absurd hadmits h

/-- A scheme that was put in place stays there. -/
theorem WellFormed.tryField_setScheme_of_scheme_eq (hw : w.WellFormed)
    (hs : scheme? field.toList = some s) (hscheme : w.scheme = s) :
    w.tryField setScheme (some field) = w := by
  rw [hw.tryField_setScheme_eq_self_iff]
  by_cases hadmits : w.Admits s
  · rw [scheme_tryField_of_admits hs hadmits, hscheme]
  · rw [tryField_of_not_admits hs hadmits]

/-- A scheme that was refused stays out when it is refused again. -/
theorem WellFormed.tryField_setScheme_iff_of_not_admits (hu : u.WellFormed) (hw : w.WellFormed)
    (hs : scheme? field.toList = some s) (hrefused : ¬u.Admits s) (hscheme : w.scheme = u.scheme) :
    w.tryField setScheme (some field) = w ↔ ¬w.Admits s := by
  rw [hw.tryField_setScheme_eq_self_iff]
  refine ⟨fun hsame hadmits ↦ ?_, fun hadmits ↦ by rw [tryField_of_not_admits hs hadmits]⟩
  -- the file scheme would have been put in place
  rw [scheme_tryField_of_admits hs hadmits, hscheme] at hsame
  obtain ⟨-, hfile, -⟩ := (hu.admits_iff_of_not_admits hrefused hscheme).mp hadmits
  rw [isFile, ← hsame, hadmits.isFile] at hfile
  cases hfile

/-- Put in place again, a scheme stays as it is, unless it is one for which there was no host
before. -/
theorem WellFormed.tryField_setScheme_again_iff (hu : u.WellFormed) (hw : w.WellFormed)
    (field : Option String) (hscheme : w.scheme = (u.tryField setScheme field).scheme) :
    w.tryField setScheme field = w ↔
      (u.isFile = true → u.hasHost = false → w.hasHost = true →
        ∀ t, field = some t → Scheme.network? t.toList = none) := by
  cases field with
  | none => simp [tryField]
  | some t =>
    cases hs : scheme? t.toList with
    | none => simp [tryField_of_scheme?_eq_none hs, network?_eq, hs]
    | some s =>
      by_cases hadmits : u.Admits s
      · rw [scheme_tryField_of_admits hs hadmits] at hscheme
        refine iff_of_true (hw.tryField_setScheme_of_scheme_eq hs hscheme) fun hfile hnone ↦ ?_
        have hspecial : u.isSpecial = true := Scheme.isSpecial_of_isFile hfile
        rw [hadmits.hasHost (hadmits.isSpecial.trans hspecial)] at hnone
        cases hnone
      · rw [tryField_of_not_admits hs hadmits] at hscheme
        have hnetwork : Scheme.network? t.toList = none ↔ s.isNetwork = false := by
          rw [network?_eq, hs, Option.filter_some]
          simp
        rw [hu.tryField_setScheme_iff_of_not_admits hw hs hadmits hscheme,
          hu.admits_iff_of_not_admits hadmits hscheme]
        simp only [Option.some.injEq, forall_eq', hnetwork]
        cases s.isNetwork <;> simp

end Field

/-! ## The credentials -/

/-- The user name and the password; without an authority there are none. -/
def credentials (u : Url) : Text × Text :=
  ((u.authority.getD (.ofHost .none)).username, (u.authority.getD (.ofHost .none)).password)

theorem hasHost_of_admitsCredentials (h : u.admitsCredentials = true) : u.hasHost = true :=
  hasHost_iff.mpr (of_admitsCredentials h).1

theorem exists_authority_of_hasHost (h : u.hasHost = true) : ∃ a, u.authority = some a := by
  rw [hasHost_iff, host] at h
  split at h
  · exact absurd rfl h
  · exact ⟨_, by assumption⟩

theorem credentials_putHost (u : Url) (host : Host) (port : Option (Option PortNumber)) :
    (u.putHost host port).credentials = u.credentials := rfl

theorem credentials_putPort (u : Url) (p : Option PortNumber) :
    (u.putPort p).credentials = u.credentials := by
  obtain ⟨scheme, authority, dotMark, path, query, fragment⟩ := u
  cases authority <;> rfl

theorem credentials_tryField_setScheme (u : Url) (field : Option String) :
    (u.tryField setScheme field).credentials = u.credentials := by
  rcases u.tryField_setScheme_eq_or field with h | ⟨s, -, h⟩ <;> rw [h]
  obtain ⟨scheme, authority, dotMark, path, query, fragment⟩ := u
  cases authority <;> rfl

/-! ## The host -/

theorem readNewHost_congr (h : v.scheme = u.scheme) (t : Text) :
    v.readNewHost t = u.readNewHost t := by
  rw [readNewHost, readNewHost, isFile, isFile, h]

/-- What it takes for a host to be put in place. -/
theorem setHost_eq_some_iff : u.setHost t = some v ↔ u.path.isRootless = false ∧
    ∃ host port, u.readNewHost (Text.withoutBreaks t) = some (host, port) ∧
      (host = .none → u.needsHost port = false) ∧ u.putHost host port = v := by
  rw [setHost]
  split
  · rename_i hrootless
    simp [hrootless]
  · rename_i hrooted
    rw [Bool.not_eq_true] at hrooted
    rw [and_iff_right hrooted]
    split
    · rename_i host port hread
      have hneeds : (host.isNone && u.needsHost port) = true ↔
          ¬(host = .none → u.needsHost port = false) := by
        simp [Host.isNone]
      split
      · rename_i hneeded
        refine iff_of_false (by simp) ?_
        rintro ⟨_, _, hsome, hfree, -⟩
        cases hsome.symm.trans hread
        exact hneeds.mp hneeded hfree
      · rename_i hfree
        rw [hneeds, not_not] at hfree
        rw [Option.some.injEq]
        refine ⟨fun hput ↦ ⟨host, port, hread, hfree, hput⟩, ?_⟩
        rintro ⟨_, _, hsome, -, hput⟩
        cases hsome.symm.trans hread
        exact hput
    · rename_i hnone
      simp [hnone]

/-- A URL that got no host needs none. -/
theorem needsHost_putHost (h : u.needsHost port = false) :
    (u.putHost host port).needsHost port = false := by
  obtain ⟨husername, hport⟩ := of_needsHost_eq_false h rfl
  have hjoin : port.join = none := by
    cases port with
    | none => rfl
    | some p => exact hport
  rw [needsHost]
  simp only [putHost, husername, hport, hjoin]
  rfl

theorem putHost_putHost : (u.putHost host port).putHost host port = u.putHost host port := by
  rw [putHost, putHost]
  simp only [Option.getD_some, Bool.and_assoc, Bool.and_self]
  cases port <;> rfl

/-! ## The port -/

theorem setPort_eq_some_iff : u.setPort t = some v ↔ u.admitsCredentials = true ∧
    ∃ p, readNewPort u.scheme (Text.withoutBreaks t) = some p ∧ u.putPort p = v := by
  rw [setPort]
  split
  · rename_i h
    rw [Option.map_eq_some_iff]
    exact (and_iff_right h).symm
  · rename_i h
    simp [h]

theorem host_putPort (u : Url) (p : Option PortNumber) : (u.putPort p).host = u.host := by
  obtain ⟨scheme, authority, dotMark, path, query, fragment⟩ := u
  cases authority <;> rfl

theorem hasHost_putPort (u : Url) (p : Option PortNumber) : (u.putPort p).hasHost = u.hasHost := by
  rw [hasHost, hasHost, host_putPort]

theorem admitsCredentials_putPort (u : Url) (p : Option PortNumber) :
    (u.putPort p).admitsCredentials = u.admitsCredentials := by
  rw [admitsCredentials, hasHost_putPort]
  rfl

theorem putPort_putPort (u : Url) (p : Option PortNumber) :
    (u.putPort p).putPort p = u.putPort p := by
  obtain ⟨scheme, authority, dotMark, path, query, fragment⟩ := u
  cases authority <;> simp [putPort, updateAuthority]

/-- A port stays in place when the host in front of it is put there again, or with another port in
between. -/
theorem putPort_putHost_putPort (p : Option PortNumber) :
    (((u.putHost host port).putPort p).putHost host port).putPort p =
      (u.putHost host port).putPort p := by
  cases port <;> simp [putHost, putPort, updateAuthority]

/-! ## Another path, query and fragment -/

/-- The URL with another path, query and fragment. -/
def withRest (u : Url) (path : Path) (query fragment : Option Text) : Url :=
  { u with path, query, fragment }

section WithRest

variable {path : Path} {query fragment : Option Text}

theorem tryField_withRest {set : Url → Text → Option Url}
    (h : ∀ t, set (u.withRest path query fragment) t =
      (set u t).map (·.withRest path query fragment)) (field : Option String) :
    (u.withRest path query fragment).tryField set field =
      (u.tryField set field).withRest path query fragment := by
  cases field with
  | none => rfl
  | some s =>
    rw [tryField, tryField, h]
    cases set u s.toList <;> rfl

theorem admitsCredentials_withRest :
    (u.withRest path query fragment).admitsCredentials = u.admitsCredentials := rfl

theorem setUsername_withRest (t : Text) : (u.withRest path query fragment).setUsername t =
    (u.setUsername t).map (·.withRest path query fragment) := by
  rw [setUsername, setUsername, admitsCredentials_withRest]
  split <;> rfl

theorem setPassword_withRest (t : Text) : (u.withRest path query fragment).setPassword t =
    (u.setPassword t).map (·.withRest path query fragment) := by
  rw [setPassword, setPassword, admitsCredentials_withRest]
  split <;> rfl

theorem setPort_withRest (t : Text) : (u.withRest path query fragment).setPort t =
    (u.setPort t).map (·.withRest path query fragment) := by
  rw [setPort, setPort, admitsCredentials_withRest]
  split
  · rw [Option.map_map]
    rfl
  · rfl

theorem setHost_withRest (hpath : path.isRootless = u.path.isRootless) (t : Text) :
    (u.withRest path query fragment).setHost t =
      (u.setHost t).map (·.withRest path query fragment) := by
  have hread : (u.withRest path query fragment).readNewHost = u.readNewHost :=
    funext fun t ↦ readNewHost_congr rfl t
  rw [setHost, setHost, hread, withRest, hpath]
  split
  · rfl
  · split
    · split
      · rename_i hneeds
        rw [if_pos (by exact hneeds)]
        rfl
      · rename_i hneeds
        rw [if_neg (by exact hneeds)]
        rfl
    · rfl

end WithRest

/-! ## The front of a URL -/

/-- Two URLs that are the same up to the path. -/
structure SameFront (u v : Url) : Prop where
  scheme : v.scheme = u.scheme
  authority : v.authority = u.authority
  dotMark : v.dotMark = u.dotMark
  isRootless : v.path.isRootless = u.path.isRootless

theorem SameFront.refl (u : Url) : SameFront u u := ⟨rfl, rfl, rfl, rfl⟩

theorem SameFront.symm (h : SameFront u v) : SameFront v u :=
  ⟨h.scheme.symm, h.authority.symm, h.dotMark.symm, h.isRootless.symm⟩

theorem SameFront.trans {u v w : Url} (h : SameFront u v) (h' : SameFront v w) : SameFront u w :=
  ⟨h'.scheme.trans h.scheme, h'.authority.trans h.authority, h'.dotMark.trans h.dotMark,
    h'.isRootless.trans h.isRootless⟩

theorem SameFront.eq_withRest (h : SameFront u v) : v = u.withRest v.path v.query v.fragment := by
  obtain ⟨hscheme, hauthority, hmark, -⟩ := h
  obtain ⟨scheme, authority, dotMark, path, query, fragment⟩ := v
  cases hscheme
  cases hauthority
  cases hmark
  rfl

theorem SameFront.hasHost_eq (h : SameFront u v) : v.hasHost = u.hasHost := by
  rw [hasHost, hasHost, host, host, h.authority]

theorem SameFront.needsHost_eq (h : SameFront u v) (port : Option (Option PortNumber)) :
    v.needsHost port = u.needsHost port := by
  rw [needsHost, needsHost, h.authority]

theorem sameFront_stripPath (u : Url) : SameFront u u.stripPath := by
  rw [stripPath]
  split
  · rename_i t hpath _ _
    exact ⟨rfl, rfl, rfl, by rw [hpath]; rfl⟩
  · exact .refl u

/-- The path that a text gives depends on the front alone. -/
theorem setPath_of_sameFront (h : SameFront u v) (t : Text) :
    v.setPath t = (u.setPath t).map fun w ↦ { v with path := w.path } := by
  have hspecial : v.isSpecial = u.isSpecial := by rw [isSpecial, h.scheme, ← isSpecial]
  have hreplace (s : Text) : v.replacePath s = { v with path := (u.replacePath s).path } := by
    rw [replacePath, h.scheme]
    rfl
  unfold setPath
  rw [h.isRootless]
  split
  · rfl
  · cases t with
    | nil => simp only [hreplace, hspecial, h.hasHost_eq, Option.map_some]
    | cons c t =>
      simp only [hreplace, hspecial]
      split <;> rfl

theorem of_setPath {t : Text} (h : u.setPath t = some v) :
    u.path.isRootless = false ∧ v.path.isRootless = false ∧ v = { u with path := v.path } := by
  have hreplace (s : Text) : (u.replacePath s).path.isRootless = false :=
    isRootless_pathAfterAuthority u.scheme s
  unfold setPath at h
  split at h
  · cases h
  · rename_i hrooted
    refine ⟨by simpa using hrooted, ?_⟩
    cases t with
    | nil =>
      cases h
      exact ⟨hreplace _, rfl⟩
    | cons c t =>
      simp only at h
      split at h <;> cases h <;> exact ⟨hreplace _, rfl⟩

theorem sameFront_setQuery (u : Url) (t : Text) : SameFront u (u.setQuery t) := by
  unfold setQuery
  split
  · have hfront : SameFront u { u with query := none } := ⟨rfl, rfl, rfl, rfl⟩
    exact hfront.trans (sameFront_stripPath _)
  · exact ⟨rfl, rfl, rfl, rfl⟩

theorem sameFront_setPath (field : Option String) (u : Url) :
    SameFront u (u.tryField setPath field) := by
  cases field with
  | none => exact .refl u
  | some s =>
    rw [tryField]
    cases h : u.setPath s.toList with
    | none => exact .refl u
    | some v =>
      obtain ⟨hrooted, hrooted', hv⟩ := of_setPath h
      rw [Option.getD_some, hv]
      exact ⟨rfl, rfl, rfl, hrooted'.trans hrooted.symm⟩

/-- A rooted path is not changed along with the query. -/
theorem path_setQuery (h : u.path.isRootless = false) (t : Text) :
    (u.setQuery t).path = u.path := by
  unfold setQuery
  split
  · rw [stripPath]
    split
    · rename_i t hpath _ _
      have hrootless := congrArg Path.isRootless hpath
      rw [h] at hrootless
      cases hrootless
    · rfl
  · rfl

theorem WellFormed.stripPath_eq_self (hu : u.WellFormed) : u.stripPath = u := by
  rw [stripPath]
  split
  · rename_i t hpath hquery hfragment
    have hfirm := hu.path_firm t hpath hquery hfragment
    have hkept : t.reverse.dropWhile (· == ' ') = t.reverse := by
      cases hreverse : t.reverse with
      | nil => rfl
      | cons c rest =>
        have hlast : t.getLast? = some c := by rw [← List.head?_reverse, hreverse, List.head?_cons]
        refine List.dropWhile_cons_of_neg fun hspace ↦ hfirm ?_
        rw [hlast, beq_iff_eq.mp hspace]
    rw [hkept, List.reverse_reverse, ← hpath]
  · rfl

/-- A query that is there already is put in place without effect. -/
theorem WellFormed.setQuery_eq_self (hv : v.WellFormed) (hscheme : v.scheme = u.scheme)
    (hquery : v.query = (u.setQuery t).query) : v.setQuery t = v := by
  cases t with
  | nil =>
    have hnone : v.query = none := hquery.trans (query_stripPath _)
    have hself : { v with query := none } = v := by rw [← hnone]
    change stripPath { v with query := none } = v
    rw [hself, hv.stripPath_eq_self]
  | cons c t =>
    have hsome : v.query = some (Text.percentEncode (querySet v.scheme)
        (Text.withoutBreaks (Text.dropOne (· == '?') (c :: t)))) := by
      rw [hscheme]
      exact hquery
    change { v with query := some (Text.percentEncode (querySet v.scheme)
      (Text.withoutBreaks (Text.dropOne (· == '?') (c :: t)))) } = v
    rw [← hsome]

end Url
end UrlCalculus
