import UrlCalculus.Proofs.Url.RoundTrip
import UrlCalculus.Proofs.Url.Update

/-!
# URLs of network schemes

Five schemes name hosts on a network. A URL of such a scheme is its scheme, its authority, the
segments of its path, its query and its fragment: it has a host, and neither a mark nor a rootless
path. On such a URL each function that changes a part has one effect only: it puts in the place of
that part what the given text stands for there, or leaves the URL as it is when the text stands for
nothing. What a text stands for depends on the scheme at most. Two functions touch another part: a
new scheme drops its own default port, and a text for the host may give a port as well.

Read back from its written form, a network URL is what it was, but for the host, which is mapped
again.
-/

namespace UrlCalculus

namespace Scheme

/-- Whether a scheme names hosts on a network. -/
def isNetwork (s : Scheme) : Bool := s.defaultPort?.isSome

theorem isSpecial_of_isNetwork {s : Scheme} (h : s.isNetwork = true) : s.isSpecial = true := by
  rw [isSpecial, show s.defaultPort?.isSome = true from h, Bool.or_true]

theorem isFile_of_isNetwork {s : Scheme} (h : s.isNetwork = true) : s.isFile = false := by
  cases hfile : s.isFile with
  | false => rfl
  | true =>
    rw [eq_file_of_isFile hfile] at h
    cases h

theorem isNetwork_iff {s : Scheme} : s.isNetwork = true ↔ s.isSpecial = true ∧ s.isFile = false := by
  constructor
  · intro h
    exact ⟨isSpecial_of_isNetwork h, isFile_of_isNetwork h⟩
  · rintro ⟨hspecial, hfile⟩
    rwa [isSpecial, hfile, Bool.false_or] at hspecial

/-- The network scheme that a text names in front of its first colon. -/
def network? (t : Text) : Option Scheme :=
  (ofText? (Text.withoutBreaks (Text.cut (· == ':') t).1)).filter isNetwork

theorem isNetwork_of_network? {t : Text} {s : Scheme} (h : network? t = some s) :
    s.isNetwork = true :=
  (Option.filter_eq_some_iff.mp h).2

end Scheme

namespace Url

/-! ## What texts stand for -/

/-- The host that stands at the front of a text, and the port behind it if the text gives one. -/
def newHost? (s : Scheme) (t : Text) : Option (Host × Option (Option PortNumber)) :=
  match readHost s (Text.withoutBreaks t) with
  | .ok (host, ':' :: rest) => some (host, if rest.isEmpty then none else readNewPort s rest)
  | .ok (host, _) => some (host, none)
  | .error _ => none

def newPort? (s : Scheme) (t : Text) : Option (Option PortNumber) :=
  readNewPort s (Text.withoutBreaks t)

/-- The segments of a text, with or without a separator in front. -/
def newSegments (t : Text) : List Text :=
  Path.walk false [] (Path.piecesOf true (Text.dropOne (isPathSeparator true) t))

def newQuery : Text → Option Text
  | [] => none
  | t => some (Text.percentEncode .specialQuery (Text.withoutBreaks (Text.dropOne (· == '?') t)))

def newFragment : Text → Option Text
  | [] => none
  | t => some (Text.percentEncode .fragment (Text.withoutBreaks (Text.dropOne (· == '#') t)))

/-! ## Network URLs -/

/-- A network URL with the given parts. -/
def onNetwork (s : Scheme) (a : Authority) (segments : List Text) (query fragment : Option Text) :
    Url :=
  ⟨s, some a, false, .segments segments, query, fragment⟩

theorem WellFormed.of_isNetwork {u : Url} (hu : u.WellFormed)
    (hnetwork : u.scheme.isNetwork = true) :
    ∃ a, u.authority = some a ∧ a.WellFormed u.scheme ∧ a.host.Valid true ∧
      u.path.isRootless = false ∧ u.dotMark = false := by
  have hspecial := Scheme.isSpecial_of_isNetwork hnetwork
  obtain ⟨a, ha⟩ := Option.isSome_iff_exists.mp (hu.authority_isSome hspecial)
  have hauthority := hu.authority_wellFormed a ha
  have hvalid := hauthority.host_valid_of_not_isFile (Scheme.isFile_of_isNetwork hnetwork)
  rw [hspecial] at hvalid
  exact ⟨a, ha, hauthority, hvalid, hu.isRootless_eq_false ha,
    hu.dotMark_eq_false_of_isSpecial hspecial⟩

theorem WellFormed.exists_onNetwork {u : Url} (hu : u.WellFormed)
    (hnetwork : u.scheme.isNetwork = true) :
    ∃ s a segments query fragment, u = onNetwork s a segments query fragment := by
  obtain ⟨a, ha, -, -, hrooted, hmark⟩ := hu.of_isNetwork hnetwork
  obtain ⟨segments, hsegments⟩ := Path.exists_segments hrooted
  refine ⟨u.scheme, a, segments, u.query, u.fragment, ?_⟩
  rw [onNetwork, ← ha, ← hsegments, ← hmark]

theorem WellFormed.of_onNetwork {s : Scheme} {a : Authority} {segments : List Text}
    {query fragment : Option Text} (hs : s.isNetwork = true)
    (hu : (onNetwork s a segments query fragment).WellFormed) :
    a.WellFormed s ∧ a.host.Valid true := by
  obtain ⟨_, ha, hwf, hvalid, -, -⟩ := hu.of_isNetwork hs
  cases ha
  exact ⟨hwf, hvalid⟩

section Changes

variable {s : Scheme} {a : Authority} {segments : List Text} {query fragment : Option Text}

theorem setScheme_onNetwork (hs : s.isNetwork = true) (hhost : a.host ≠ .none) (t : Text) :
    (onNetwork s a segments query fragment).setScheme t =
      (Scheme.network? t).map fun s' ↦
        onNetwork s' { a with port := withoutDefault s' a.port } segments query fragment := by
  have hspecial : (onNetwork s a segments query fragment).isSpecial = true :=
    Scheme.isSpecial_of_isNetwork hs
  have hhas : (onNetwork s a segments query fragment).hasHost = true := hasHost_iff.mpr hhost
  rw [setScheme, Scheme.network?]
  cases Scheme.ofText? (Text.withoutBreaks (Text.cut (· == ':') t).1) with
  | none => rfl
  | some s' =>
    rw [Option.filter_some, Option.bind_eq_bind, Option.bind_some, hspecial, hhas]
    by_cases hs' : s'.isNetwork = true
    · obtain ⟨hspecial', hfile'⟩ := Scheme.isNetwork_iff.mp hs'
      rw [if_neg (by simp [hspecial', hfile']), if_pos hs']
      rfl
    · have hrefused : s'.isSpecial ≠ true ∨ s'.isFile = true := by
        rw [Scheme.isNetwork_iff] at hs'
        by_cases h : s'.isSpecial = true
        · exact .inr (by simpa [h] using hs')
        · exact .inl h
      rw [if_pos (hrefused.imp_right .inl), if_neg hs']
      rfl

theorem admitsCredentials_onNetwork (hs : s.isNetwork = true) (hhost : a.host ≠ .none) :
    (onNetwork s a segments query fragment).admitsCredentials = true := by
  have hhas : (onNetwork s a segments query fragment).hasHost = true := hasHost_iff.mpr hhost
  have hfile : (onNetwork s a segments query fragment).isFile = false :=
    Scheme.isFile_of_isNetwork hs
  rw [admitsCredentials, hhas, hfile]
  rfl

theorem setUsername_onNetwork (hs : s.isNetwork = true) (hhost : a.host ≠ .none) (t : Text) :
    (onNetwork s a segments query fragment).setUsername t =
      some (onNetwork s { a with username := Text.percentEncode .userinfo t } segments query
        fragment) := by
  rw [setUsername, if_pos (admitsCredentials_onNetwork hs hhost)]
  rfl

theorem setPassword_onNetwork (hs : s.isNetwork = true) (hhost : a.host ≠ .none) (t : Text) :
    (onNetwork s a segments query fragment).setPassword t =
      some (onNetwork s { a with password := Text.percentEncode .userinfo t } segments query
        fragment) := by
  rw [setPassword, if_pos (admitsCredentials_onNetwork hs hhost)]
  rfl

theorem host_ne_none_of_newHost? (hs : s.isNetwork = true) {t : Text} {host : Host}
    {port : Option (Option PortNumber)} (h : newHost? s t = some (host, port)) :
    host ≠ .none := by
  have hvalid {rest : Text} (hread : readHost s (Text.withoutBreaks t) = .ok (host, rest)) :
      host.Valid true := by
    rw [← Scheme.isSpecial_of_isNetwork hs]
    exact valid_of_readHost hread
  rw [newHost?] at h
  split at h
  · rename_i hread
    cases h
    exact (hvalid hread).ne_none
  · rename_i hread
    cases h
    exact (hvalid hread).ne_none
  · cases h

theorem setHost_onNetwork (hs : s.isNetwork = true) (t : Text) :
    (onNetwork s a segments query fragment).setHost t =
      (newHost? s t).map fun found ↦
        onNetwork s { a with host := found.1, port := found.2.getD a.port } segments query
          fragment := by
  have hnew : (onNetwork s a segments query fragment).readNewHost (Text.withoutBreaks t) =
      newHost? s t := by
    rw [readNewHost, if_neg]
    · rfl
    · exact Bool.eq_false_iff.mp (Scheme.isFile_of_isNetwork hs)
  rw [setHost, if_neg (by exact Bool.false_ne_true), hnew]
  cases hfound : newHost? s t with
  | none => rfl
  | some found =>
    obtain ⟨host, port⟩ := found
    have hhost := Host.isNone_eq_false_iff.mpr (host_ne_none_of_newHost? hs hfound)
    simp only [hhost, Bool.false_and, Bool.false_eq_true, if_false, Option.map_some]
    rfl

theorem setPort_onNetwork (hs : s.isNetwork = true) (hhost : a.host ≠ .none) (t : Text) :
    (onNetwork s a segments query fragment).setPort t =
      (newPort? s t).map fun port ↦ onNetwork s { a with port } segments query fragment := by
  rw [setPort, if_pos (admitsCredentials_onNetwork hs hhost)]
  rfl

theorem pathAfterAuthority_of_isNetwork (hs : s.isNetwork = true) (t : Text) :
    pathAfterAuthority s t = .segments (newSegments t) := by
  obtain ⟨hspecial, hfile⟩ := Scheme.isNetwork_iff.mp hs
  rw [pathAfterAuthority, if_neg (by simp [hspecial]), newSegments, Path.read, hspecial, hfile]
  rfl

theorem setPath_onNetwork (hs : s.isNetwork = true) (t : Text) :
    (onNetwork s a segments query fragment).setPath t =
      some (onNetwork s a (newSegments t) query fragment) := by
  have hspecial : (onNetwork s a segments query fragment).isSpecial = true :=
    Scheme.isSpecial_of_isNetwork hs
  have hreplace (t : Text) : (onNetwork s a segments query fragment).replacePath t =
      onNetwork s a (newSegments t) query fragment := by
    rw [onNetwork, replacePath, pathAfterAuthority_of_isNetwork hs]
    rfl
  unfold setPath
  rw [if_neg (by exact Bool.false_ne_true)]
  cases t with
  | nil =>
    simp only [hspecial, Bool.true_or, if_true, hreplace]
    rfl
  | cons c rest =>
    simp only [hspecial, hreplace]
    split
    · rfl
    · -- the slash in front is dropped again
      rename_i hc
      have hsame : newSegments ('/' :: c :: rest) = newSegments (c :: rest) := by
        rw [newSegments, newSegments, Text.dropOne, if_pos (by rfl), Text.dropOne, if_neg hc]
      rw [hsame]

theorem setQuery_onNetwork (hs : s.isNetwork = true) (t : Text) :
    (onNetwork s a segments query fragment).setQuery t =
      onNetwork s a segments (newQuery t) fragment := by
  have hset : querySet s = .specialQuery := if_pos (Scheme.isSpecial_of_isNetwork hs)
  cases t with
  | nil => rfl
  | cons c rest =>
    rw [setQuery, newQuery, onNetwork, hset]
    · rfl
    · simp
    · simp

theorem setFragment_onNetwork (t : Text) :
    (onNetwork s a segments query fragment).setFragment t =
      onNetwork s a segments query (newFragment t) := by
  cases t with
  | nil => rfl
  | cons c rest => rfl

end Changes

/-! ## Reading back -/

theorem dotFree_of_mem_newSegments (t : Text) : ∀ x ∈ newSegments t, Path.DotFree x :=
  Path.dotFree_of_mem_walk fun h ↦ by cases h

section ReadingBack

variable {s : Scheme} {a : Authority} {segments : List Text} {query fragment : Option Text}

/-- **Read back, a network URL is what it was, but for the host.** -/
theorem parse_text_onNetwork (hs : s.isNetwork = true)
    (hu : (onNetwork s a segments query fragment).WellFormed)
    (hdots : ∀ x ∈ segments, Path.DotFree x) :
    parse none (onNetwork s a segments query fragment).text =
      a.host.reread true >>= fun host ↦
        .ok (onNetwork s { a with host } segments query fragment) := by
  obtain ⟨hspecial, hfile⟩ := Scheme.isNetwork_iff.mp hs
  obtain ⟨-, hvalid⟩ := hu.of_onNetwork hs
  have hpath := hu.pathAfterAuthority_text rfl hfile hdots
  have htail : (onNetwork s a segments query fragment).tailText =
      (onNetwork s a segments query fragment).path.text := tailText_of_not_dotMark rfl
  rw [hu.parse_text_of_authority rfl hfile, if_neg fun h ↦ hvalid.ne_none h.1, htail, hpath]
  change a.host.reread s.isSpecial >>= _ = _
  rw [hspecial]
  rfl

/-- A host that the mapping of domain names leaves alone comes back too. -/
theorem parse_text_onNetwork_eq_self (hs : s.isNetwork = true)
    (hu : (onNetwork s a segments query fragment).WellFormed)
    (hdots : ∀ x ∈ segments, Path.DotFree x)
    (hname : ∀ t, a.host = .name t → Domain.toAscii? t = some t) :
    parse none (onNetwork s a segments query fragment).text =
      .ok (onNetwork s a segments query fragment) := by
  obtain ⟨-, hvalid⟩ := hu.of_onNetwork hs
  have hself := (Host.reread_eq_ok_iff hvalid).mpr fun _ ↦ hname
  rw [parse_text_onNetwork hs hu hdots, hself, ok_bind]

end ReadingBack

end Url

end UrlCalculus
