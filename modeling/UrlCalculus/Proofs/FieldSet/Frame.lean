import UrlCalculus.Proofs.FieldSet.Network
import UrlCalculus.Record

/-!
# What an update leaves alone

A field set changes what it names and nothing else: the record of an updated network URL has the old
value in each component whose field is absent, whatever the other fields are and whether they are
taken or refused. Absence is said in more than one way. The query has two fields, an empty fragment
counts as none, and the port can be given behind the host; there it stands behind a colon outside
brackets, and a new scheme may drop it as its default one.
-/

namespace UrlCalculus

/-! ## The port behind a host -/

/-- Whether a colon stands outside brackets. -/
def Text.hasOuterColon (inBrackets : Bool) : Text → Bool
  | [] => false
  | c :: rest =>
    (c == ':' && !inBrackets) ||
      hasOuterColon (if c = '[' then true else if c = ']' then false else inBrackets) rest

/-- A text without colons has none outside brackets. -/
theorem Text.hasOuterColon_eq_false {t : Text} (h : ':' ∉ t) (inBrackets : Bool) :
    hasOuterColon inBrackets t = false := by
  induction t generalizing inBrackets with
  | nil => rfl
  | cons c rest ih =>
    obtain ⟨hc, hrest⟩ := not_or.mp (mt List.mem_cons.mpr h)
    rw [hasOuterColon, ih hrest, beq_false_of_ne (Ne.symm hc)]
    rfl

theorem Text.hasOuterColon_withoutBreaks (inBrackets : Bool) (t : Text) :
    hasOuterColon inBrackets (withoutBreaks t) = hasOuterColon inBrackets t := by
  induction t generalizing inBrackets with
  | nil => rfl
  | cons c rest ih =>
    rw [withoutBreaks_cons]
    cases hbreak : isBreak c with
    | false =>
      simp only [Bool.false_eq_true, if_false]
      rw [hasOuterColon, hasOuterColon, ih]
    | true =>
      have hc : c ≠ ':' ∧ c ≠ '[' ∧ c ≠ ']' := by
        refine ⟨?_, ?_, ?_⟩ <;>
          · rintro rfl
            exact absurd hbreak (by decide)
      rw [if_pos rfl, ih, hasOuterColon]
      simp [hc]

namespace Url

/-- A host is cut off at a colon only where that stands outside brackets. -/
theorem hasOuterColon_of_splitHost {isSpecial inBrackets : Bool} {t host rest : Text}
    (h : splitHost isSpecial inBrackets t = (host, ':' :: rest)) :
    Text.hasOuterColon inBrackets t = true := by
  induction t generalizing inBrackets host with
  | nil => cases h
  | cons c t ih =>
    rw [splitHost] at h
    rw [Text.hasOuterColon, Bool.or_eq_true]
    split at h
    · rename_i hends
      cases h
      exact .inl (by simpa [endsAuthority, isPathSeparator] using hends)
    · obtain ⟨-, hrest⟩ := Prod.mk.inj h
      exact .inr (ih (Prod.ext rfl hrest))

theorem splitHost_of_readHost {s : Scheme} {t rest : Text} {host : Host}
    (h : readHost s t = .ok (host, rest)) : (splitHost s.isSpecial false t).2 = rest := by
  rw [readHost] at h
  simp only at h
  split at h
  · split at h
    · cases h
    · obtain ⟨_, -, hpair⟩ := bind_eq_ok_iff.mp h
      cases hpair
      rfl
  · obtain ⟨_, -, hpair⟩ := bind_eq_ok_iff.mp h
    cases hpair
    rfl

/-- A text without such a colon gives no port along with the host. -/
theorem newHost?_of_not_hasOuterColon {s : Scheme} {t : Text} {host : Host}
    {port : Option (Option PortNumber)} (ht : Text.hasOuterColon false t = false)
    (h : newHost? s t = some (host, port)) : port = none := by
  rw [newHost?] at h
  split at h
  · rename_i hread
    have hcolon := hasOuterColon_of_splitHost (Prod.ext rfl (splitHost_of_readHost hread))
    rw [Text.hasOuterColon_withoutBreaks, ht] at hcolon
    cases hcolon
  · cases h
    rfl
  · cases h

end Url

namespace FieldSet

/-! ## Records -/

/-- The components of a record that an update with a host leaves alone. -/
structure Keeps (f : FieldSet) (host : String) (old new : Record) : Prop where
  protocol : f.protocol = none → new.protocol = old.protocol
  username : f.username = none → new.username = old.username
  password : f.password = none → new.password = old.password
  port : f.protocol = none → f.port = none → Text.hasOuterColon false host.toList = false →
    new.port = old.port
  pathname : f.pathname = none → new.pathname = old.pathname
  search : f.search = none → f.searchParams = none → new.search = old.search
  hash : f.hash = none ∨ f.hash = some "" → new.hash = old.hash

section Keeps

variable {f : FieldSet} {host : String} {s : Scheme} {a : Authority} {segments : List Text}
  {query fragment : Option Text}

theorem schemeOver_of_none (h : f.protocol = none) : f.schemeOver s = s := by
  rw [schemeOver, h]
  rfl

/-- Without a port behind the host, only the port in its own field counts. -/
theorem portOver_of_not_hasOuterColon (hcolon : Text.hasOuterColon false host.toList = false) :
    f.portOver host s a =
      (f.port.bind fun p ↦ Url.newPort? s p.toString.toList).getD (withoutDefault s a.port) := by
  have hbehind : (hostOver host s a.host).2 = none := by
    rw [hostOver]
    cases hfound : Url.newHost? s host.toList with
    | none => rfl
    | some found => exact Url.newHost?_of_not_hasOuterColon hcolon hfound
  rw [portOver, hbehind, Option.getD_none]

theorem portOver_of_none (ha : withoutDefault s a.port = a.port) (hport : f.port = none)
    (hcolon : Text.hasOuterColon false host.toList = false) : f.portOver host s a = a.port := by
  rw [portOver_of_not_hasOuterColon hcolon, hport]
  exact ha

theorem queryOver_of_none (hsearch : f.search = none) (hparams : f.searchParams = none) :
    f.queryOver query = query := by
  rw [queryOver, hsearch, hparams]

theorem fragmentOver_of_none (h : f.hash = none ∨ f.hash = some "") :
    f.fragmentOver fragment = fragment := by
  rcases h with h | h
  · rw [fragmentOver, h]
  · rw [fragmentOver, h]
    exact if_pos rfl

/-- The parts that a field set makes of old ones show as the components that it keeps, whatever host
is read in the end. -/
theorem keeps_urlOver (f : FieldSet) (host : String) (ha : withoutDefault s a.port = a.port)
    (h : Host) :
    f.Keeps host (.ofUrl (.onNetwork s a segments query fragment))
      (.ofUrl (.onNetwork (f.schemeOver s) { f.authorityOver host (f.schemeOver s) a with host := h }
        (f.segmentsOver segments) (f.queryOver query) (f.fragmentOver fragment))) where
  protocol hnone := by
    change String.ofList (f.schemeOver s ++ [':']) = String.ofList (s ++ [':'])
    rw [schemeOver_of_none hnone]
  username hnone := by
    change String.ofList (f.authorityOver host (f.schemeOver s) a).username =
      String.ofList a.username
    rw [authorityOver, hnone]
    rfl
  password hnone := by
    change String.ofList (f.authorityOver host (f.schemeOver s) a).password =
      String.ofList a.password
    rw [authorityOver, hnone]
    rfl
  port hprotocol hport hcolon := by
    have hkept : f.portOver host (f.schemeOver s) a = a.port := by
      rw [schemeOver_of_none hprotocol]
      exact portOver_of_none ha hport hcolon
    change String.ofList (Authority.portText ⟨_, _, h, f.portOver host (f.schemeOver s) a⟩) =
      String.ofList a.portText
    rw [hkept]
    rfl
  pathname hnone := by
    change String.ofList (Path.segments (f.segmentsOver segments)).text =
      String.ofList (Path.segments segments).text
    rw [segmentsOver, hnone]
    rfl
  search hsearch hparams := by
    change String.ofList (Record.shownWith '?' (f.queryOver query)) =
      String.ofList (Record.shownWith '?' query)
    rw [queryOver_of_none hsearch hparams]
  hash hnone := by
    change String.ofList (Record.shownWith '#' (f.fragmentOver fragment)) =
      String.ofList (Record.shownWith '#' fragment)
    rw [fragmentOver_of_none hnone]

/-- **An update changes what it names and nothing else.** An update of a network URL with a host
succeeds, and whatever record is read from its result has the old components where their fields are
absent. If the host in the end is one that the mapping of domain names leaves alone, the record is
that of the URL the fields have made. -/
theorem keeps_of_update {base : String} {u : Url} (hbase : Url.ofString base = .ok u)
    (hnetwork : u.scheme.isNetwork = true) (hhost : f.resolvedHost? = some host) :
    ∃ href, f.update base = .ok href ∧
      ((∀ t, (f.applyTo host u).host = .name t → Domain.toAscii? t = some t) →
        Record.parse href = .ok (.ofUrl (f.applyTo host u))) ∧
      ∀ old new, Record.parse base = .ok old → Record.parse href = .ok new →
        f.Keeps host old new := by
  have hu := Url.wellFormed_of_parse hbase
  have hdots := Url.dotFree_of_parse hbase fun hfile ↦ by
    rw [Scheme.isFile_of_isNetwork hnetwork] at hfile
    exact absurd hfile (by simp)
  obtain ⟨s, a, segments, query, fragment, rfl⟩ := hu.exists_onNetwork hnetwork
  have hs : s.isNetwork = true := hnetwork
  obtain ⟨hwf, hvalid⟩ := hu.of_onNetwork hs
  have hs' := f.isNetwork_schemeOver hs
  have hover := f.wellFormed_urlOver host hs hu
  have hdots' := f.dotFree_segmentsOver hdots
  rw [applyTo_onNetwork f host hs hwf hvalid.ne_none]
  refine ⟨(f.urlOver host s a segments query fragment).href, ?_, fun hname ↦ ?_, ?_⟩
  · simp only [update, hhost, hbase, applyTo_onNetwork f host hs hwf hvalid.ne_none]
  · have hself := Url.parse_text_onNetwork_eq_self hs' hover hdots' hname
    rw [Record.parse, Url.ofString, Url.toList_href]
    exact congrArg (· >>= _) hself
  · intro old new hold hnew
    rw [Record.parse, hbase] at hold
    cases hold
    rw [Record.parse, Url.ofString, Url.toList_href] at hnew
    obtain ⟨v, hv, hnew⟩ := bind_eq_ok_iff.mp hnew
    rw [urlOver, Url.parse_text_onNetwork hs' hover hdots'] at hv
    obtain ⟨h, -, hv⟩ := bind_eq_ok_iff.mp hv
    cases hv
    cases hnew
    exact keeps_urlOver f host hwf.port_written h

end Keeps

/-- A host with colons in brackets, a password, and an empty fragment, in a URL that has it all. -/
theorem keeps_of_update_bracketed :
    let f : FieldSet := { host := some "[::1]", password := some "x y", hash := some "" }
    ∃ old new href, Record.parse "https://me:pw@h:81/p?q#f" = .ok old ∧
      f.update "https://me:pw@h:81/p?q#f" = .ok href ∧ Record.parse href = .ok new ∧
      f.Keeps "[::1]" old new ∧ new.port = "81" := by
  intro f
  have hbase : Url.ofString "https://me:pw@h:81/p?q#f" =
      .ok ⟨"https".toList, some ⟨"me".toList, "pw".toList, .name ['h'], some 81⟩, false,
        .segments [['p']], some ['q'], some ['f']⟩ := rfl
  obtain ⟨href, hupdate, hread, hkeeps⟩ := keeps_of_update (f := f) hbase rfl rfl
  have hold : Record.parse "https://me:pw@h:81/p?q#f" = .ok (.ofUrl _) :=
    congrArg (· >>= _) hbase
  have hnew := hread fun t ht ↦ by cases ht
  have hkept := hkeeps _ _ hold hnew
  exact ⟨_, _, href, hold, hupdate, hnew, hkept, hkept.port rfl rfl rfl⟩

end FieldSet

end UrlCalculus
