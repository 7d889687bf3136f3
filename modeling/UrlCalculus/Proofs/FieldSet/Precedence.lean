import UrlCalculus.Proofs.FieldSet.Network
import UrlCalculus.Proofs.FieldSet.PortText
import UrlCalculus.Proofs.Record.Rereading

/-!
# Which host and which port a URL ends up with

Two fields give a host, and a port can come from four places: the base, a new scheme that drops it,
the text behind the host, and the field of its own. The hostname wins over the host, and the port in
its own field wins over all the others, since it is put in place last; it is read in the scheme that
the URL has by then. A port behind the host may be nonsense. It does not keep the host in front of
it from being taken.
-/

namespace UrlCalculus

namespace Url

variable {s : Scheme} {t : Text} {host : Host}

/-- A host at the front of a text is taken by every network scheme, whatever follows it. -/
theorem exists_newHost?_eq (hs : s.isNetwork = true)
    (h : Host.special (splitHost true false (Text.withoutBreaks t)).1 = .ok host) :
    ∃ port, newHost? s t = some (host, port) := by
  have hspecial := Scheme.isSpecial_of_isNetwork hs
  have hne : (splitHost true false (Text.withoutBreaks t)).1.isEmpty = false := by
    by_contra hempty
    rw [Bool.not_eq_false, List.isEmpty_iff] at hempty
    rw [hempty] at h
    cases h
  have hread : readHost s (Text.withoutBreaks t) =
      .ok (host, (splitHost true false (Text.withoutBreaks t)).2) := by
    rw [readHost]
    simp only [hspecial, if_true, hne, Bool.false_eq_true, if_false, h]
    rfl
  rw [newHost?, hread]
  cases (splitHost true false (Text.withoutBreaks t)).2 with
  | nil => exact ⟨_, rfl⟩
  | cons c rest =>
    by_cases hc : c = ':'
    · subst hc
      exact ⟨_, rfl⟩
    · exact ⟨none, by simp [hc]⟩

end Url

namespace FieldSet

/-- A field with a hostname is not looked at for a host. -/
theorem resolvedHost?_of_hostname {f : FieldSet} {t : String} (h : f.hostname = some t)
    (hne : t ≠ "") : f.resolvedHost? = some t := by
  simp [resolvedHost?, h, hne]

/-- **The hostname and the port in its own field count most.** Whatever else the base and the fields
say, the record of the result has the host at the front of the resolved one and the port of the port
field, which is not shown where it is the default one of the scheme in the end. -/
theorem host_port_of_update {f : FieldSet} {base host : String} {u : Url} {h : Host} {p : Port}
    {port : Option PortNumber} (hbase : Url.ofString base = .ok u)
    (hnetwork : u.scheme.isNetwork = true) (hhost : f.resolvedHost? = some host)
    (hread : Host.special (splitHost true false (Text.withoutBreaks host.toList)).1 = .ok h)
    (hname : ∀ t, h = .name t → Domain.toAscii? t = some t) (hport : f.port = some p)
    (hdenotes : p.Denotes port) :
    ∃ href v, f.update base = .ok href ∧ Record.parse href = .ok (.ofUrl v) ∧
      v.scheme = f.schemeOver u.scheme ∧ (Record.ofUrl v).hostname = String.ofList h.text ∧
      (port = none ∨ port = v.scheme.defaultPort? → (Record.ofUrl v).port = "") ∧
      (∀ k, port = some k → port ≠ v.scheme.defaultPort? →
        (Record.ofUrl v).port = String.ofList (Text.decimal k)) ∧
      ∀ t, f.hostname = some t → t ≠ "" → host = t := by
  have hu := Url.wellFormed_of_parse hbase
  obtain ⟨s, a, segments, query, fragment, rfl⟩ := hu.exists_onNetwork hnetwork
  have hs : s.isNetwork = true := hnetwork
  have hs' := f.isNetwork_schemeOver hs
  obtain ⟨hupdate, hback⟩ := update_onNetwork hbase hs hhost
  obtain ⟨behind, hnew⟩ := Url.exists_newHost?_eq hs' hread
  have hover : hostOver host (f.schemeOver s) a.host = (h, behind) := by
    rw [hostOver, hnew, Option.getD_some]
  have hvalid : (hostOver host (f.schemeOver s) a.host).1.Valid true :=
    ((f.wellFormed_urlOver host hs hu).of_onNetwork hs').2
  rw [hover] at hvalid
  have hself : h.reread true = .ok h := (Host.reread_eq_ok_iff hvalid).mpr fun _ ↦ hname
  rw [hover, hself, ok_bind] at hback
  have hportOver : f.portOver host (f.schemeOver s) a = withoutDefault (f.schemeOver s) port := by
    rw [portOver, hport, Option.bind_some, hdenotes.newPort?_eq, Option.getD_some]
  obtain ⟨hempty, hwritten⟩ := Record.port_ofUrl_onNetwork
    (a := { f.authorityOver host (f.schemeOver s) a with host := h }) hportOver
    (f.segmentsOver segments) (f.queryOver query) (f.fragmentOver fragment)
  refine ⟨_, _, hupdate, Record.parse_of_ofString hback, rfl, rfl, hempty, hwritten,
    fun t ht hne ↦ ?_⟩
  have hsame := hhost.symm.trans (resolvedHost?_of_hostname ht hne)
  exact Option.some.inj hsame

/-- Four ports at once, and a host that is not looked at. -/
theorem host_port_of_update_wss :
    let f : FieldSet := { protocol := some "wss:", host := some "b:82",
                          hostname := some "[0::1]:83", port := some (.text "0080") }
    ∃ href v, f.update "ftp://a:81/p?q" = .ok href ∧ Record.parse href = .ok (.ofUrl v) ∧
      (Record.ofUrl v).hostname = "[::1]" ∧ (Record.ofUrl v).port = "80" := by
  intro f
  have hbase : Url.ofString "ftp://a:81/p?q" =
      .ok ⟨"ftp".toList, some ⟨[], [], .name ['a'], some 81⟩, false, .segments [['p']], some ['q'],
        none⟩ := rfl
  have hdenotes : (Port.text "0080").Denotes (some 80) := .digits rfl
  obtain ⟨href, v, hupdate, hparse, hscheme, hhostname, -, hport, -⟩ :=
    host_port_of_update (f := f) (h := .ipv6 ⟨[0, 0, 0, 0, 0, 0, 0, 1], by decide⟩) hbase rfl
      (rfl : f.resolvedHost? = some "[0::1]:83") rfl (fun t ht ↦ by cases ht) rfl hdenotes
  exact ⟨href, v, hupdate, hparse, hhostname, hport 80 rfl (by rw [hscheme]; decide)⟩

end FieldSet

end UrlCalculus
