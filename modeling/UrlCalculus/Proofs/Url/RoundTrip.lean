import UrlCalculus.Proofs.Url.Writing

/-!
# Reading a URL that was written

The written form of a well-formed URL is cut back into its parts, and all of them but the host are
taken as they are. Whether the URL comes back then depends on how its parts stand next to each
other, which is what `Settled` says: five conditions, of which each is needed.
-/

namespace UrlCalculus

namespace Url

variable {u : Url}

/-! ## Reading with an authority -/

theorem dropWhile_separators {t : Text} (hne : t ≠ []) (rest : Text)
    (ht : Text.Avoids (isPathSeparator true) t) :
    ('/' :: '/' :: (t ++ rest)).dropWhile (isPathSeparator true) = t ++ rest := by
  obtain ⟨c, t, rfl⟩ := List.exists_cons_of_ne_nil hne
  rw [List.dropWhile_cons_of_pos (by rfl), List.dropWhile_cons_of_pos (by rfl), List.cons_append,
    List.dropWhile_cons_of_neg (by simp [(Text.avoids_cons.mp ht).1])]

theorem authorityText_ne_nil {a : Authority} (hvalid : a.host.Valid true) : a.text ≠ [] := by
  rw [Authority.text, Authority.hostPortText]
  simp [hvalid.text_ne_nil]

/-- A reference with an authority is read from there on. -/
theorem WellFormed.parse_text (hu : u.WellFormed) {a : Authority} (ha : u.authority = some a)
    (hfile : u.scheme.isFile = false) :
    parse none u.text = ofAuthority u.scheme (a.text ++ u.tailText) u.reference := by
  have hwf := hu.authority_wellFormed a ha
  have hbody : u.reference.body = '/' :: '/' :: (a.text ++ u.tailText) := bodyText_of_authority ha
  rw [parse, hu.ofText_text, ofReference, hu.plain_reference]
  simp only [reference, hfile, Bool.false_eq_true, if_false, Option.filter_none]
  rw [← reference]
  cases hspecial : u.scheme.isSpecial with
  | true =>
    -- all separators in front are dropped, which are just the two slashes
    have hvalid := hwf.host_valid_of_not_isFile hfile
    have hseparators : Text.Avoids (isPathSeparator true) a.text := by
      have hends : Text.Avoids (endsAuthority true) a.text := by
        rw [hspecial] at hvalid
        exact hwf.avoids_text (fun _ ↦ hvalid.avoids_endsAuthority)
          (fun c ↦ userinfo_of_endsAuthority) rfl rfl (by decide)
      exact hends.mono fun c ↦ endsAuthority_of_separator
    rw [hspecial] at hvalid
    rw [if_pos rfl, ofSpecial, hbody,
      dropWhile_separators (authorityText_ne_nil hvalid) _ hseparators]
  | false =>
    rw [if_neg (by simp)]
    unfold ofNonspecial
    rw [hbody]
    rfl

/-- **All but the host is read as it was written.** -/
theorem WellFormed.parse_text_of_authority (hu : u.WellFormed) {a : Authority}
    (ha : u.authority = some a) (hfile : u.scheme.isFile = false) :
    parse none u.text =
      if a.host = .none ∧ a.password ≠ [] then .error .emptyHost
      else
        a.host.reread u.scheme.isSpecial >>= fun h ↦
          .ok { u with
            authority := some { a with host := h }
            dotMark := false
            path := pathAfterAuthority u.scheme u.tailText } := by
  have hrest := head?_tailText (hu.isRootless_eq_false ha)
  rw [hu.parse_text ha hfile, ofAuthority,
    readAuthority_text (hu.authority_wellFormed a ha) hfile hrest]
  split
  · rfl
  · cases a.host.reread u.scheme.isSpecial with
    | error e => rfl
    | ok h => exact congrArg Except.ok (hu.complete_reference _ _)

/-- A path without dots is read as it was written. -/
theorem WellFormed.pathAfterAuthority_text (hu : u.WellFormed)
    (hrooted : u.path.isRootless = false) (hfile : u.scheme.isFile = false)
    (hdots : ∀ x ∈ u.path.segmentList, Path.DotFree x) :
    pathAfterAuthority u.scheme u.path.text = u.path := by
  have hpath := hu.path_wellFormed
  obtain ⟨ss, hp⟩ := Path.exists_segments hrooted
  rw [hp] at hpath hdots ⊢
  obtain ⟨havoids, hempty, -⟩ := hpath
  cases ss with
  | nil =>
    rw [pathAfterAuthority, (hempty rfl).1]
    rfl
  | cons x xs =>
    have hslash : isPathSeparator u.scheme.isSpecial '/' = true := rfl
    rw [Path.text_segments_cons, pathAfterAuthority, if_neg (by simp), Text.dropOne,
      if_pos hslash, hfile, Path.read_join (List.cons_ne_nil _ _) havoids hdots]

/-! ## Reading without an authority -/

theorem WellFormed.isSpecial_eq_false (hu : u.WellFormed) (ha : u.authority = none) :
    u.scheme.isSpecial = false := by
  refine Bool.eq_false_iff.mpr fun hspecial ↦ ?_
  have hsome := hu.authority_isSome hspecial
  rw [ha] at hsome
  exact absurd hsome (by simp)

theorem WellFormed.parse_text_of_none (hu : u.WellFormed) (ha : u.authority = none) :
    parse none u.text = ofNonspecial u.scheme u.reference := by
  have hspecial := hu.isSpecial_eq_false ha
  rw [parse, hu.ofText_text, ofReference, hu.plain_reference]
  simp only [reference, hspecial, Scheme.isFile_of_not_isSpecial hspecial, Bool.false_eq_true,
    if_false]

theorem ofNonspecial_of_slash {s : Scheme} {r : Reference} {rest : Text}
    (hbody : r.body = '/' :: rest) (hrest : rest.head? ≠ some '/') :
    ofNonspecial s r = .ok (complete s none (.read false false [] rest) r) := by
  unfold ofNonspecial
  rw [hbody]
  split
  · rename_i heq
    cases heq
    exact absurd rfl hrest
  · rename_i heq
    cases heq
    rfl
  · rename_i hne
    exact absurd rfl (hne rest)

theorem ofNonspecial_of_rootless {s : Scheme} {r : Reference} (hbody : r.body.head? ≠ some '/') :
    ofNonspecial s r =
      .ok (complete s none (.rootless (Text.percentEncode .controls r.body)) r) := by
  unfold ofNonspecial
  split
  · rename_i heq
    rw [heq] at hbody
    exact absurd rfl hbody
  · rename_i heq
    rw [heq] at hbody
    exact absurd rfl hbody
  · rfl

theorem WellFormed.parse_text_of_rootless (hu : u.WellFormed) {t : Text}
    (ht : u.path = .rootless t) : parse none u.text = .ok u := by
  obtain ⟨hnone, hmark⟩ := hu.of_rootless ht
  have hbody : u.reference.body = t := hu.bodyText_rootless ht
  have hhead : t.head? ≠ some '/' := by
    have hpath := hu.path_wellFormed
    rw [ht] at hpath
    exact hpath.2.2.2
  have hencoded : Text.percentEncode .controls t = t :=
    Text.percentEncode_of_avoids ((hu.avoids_rootless ht).mono fun c hc ↦ by
      simp [Path.rootlessSet, EncodeSet.adding, hc])
  rw [hu.parse_text_of_none hnone, ofNonspecial_of_rootless (by rwa [hbody]), hbody, hencoded,
    hu.complete_reference]
  obtain ⟨scheme, authority, dotMark, path, query, fragment⟩ := u
  cases hnone
  cases ht
  cases hmark
  rfl

theorem head?_join_ne_slash {isSpecial : Bool} {x : Text} {xs : List Text}
    (hx : Text.Avoids (Path.segmentSet isSpecial) x)
    (hslashes : Path.beginsWithTwoSlashes (.segments (x :: xs)) = false) :
    (Text.join '/' (x :: xs)).head? ≠ some '/' := by
  have hslash : Path.segmentSet isSpecial '/' = true := by cases isSpecial <;> rfl
  cases x with
  | cons c t =>
    have hc : c ≠ '/' := by
      rintro rfl
      rw [Text.avoids_cons, hslash] at hx
      cases hx.1
    cases xs with
    | nil => simpa [Text.join] using hc
    | cons y ys => simpa [Text.join_cons_cons] using hc
  | nil =>
    cases xs with
    | nil => simp [Text.join]
    | cons y ys => cases hslashes

/-- Without an authority a path that is not rootless has a segment. -/
theorem WellFormed.segments_of_none (hu : u.WellFormed) (ha : u.authority = none)
    (hrooted : u.path.isRootless = false) :
    ∃ x xs, u.path = .segments (x :: xs) ∧
      ∀ y ∈ x :: xs, Text.Avoids (Path.segmentSet false) y := by
  have hpath := hu.path_wellFormed
  obtain ⟨ss, hp⟩ := Path.exists_segments hrooted
  rw [hp] at hpath
  obtain ⟨havoids, hempty, -⟩ := hpath
  rw [hu.isSpecial_eq_false ha] at havoids
  obtain ⟨x, xs, rfl⟩ : ∃ x xs, ss = x :: xs := by
    refine List.exists_cons_of_ne_nil fun hnil ↦ ?_
    have hsome := (hempty hnil).2
    rw [ha] at hsome
    exact absurd hsome (by simp)
  exact ⟨x, xs, hp, havoids⟩

/-- **Without an authority the mark keeps the path apart.** -/
theorem WellFormed.parse_text_of_segments (hu : u.WellFormed) (ha : u.authority = none)
    (hrooted : u.path.isRootless = false)
    (hmark : u.dotMark = needsDotMark u.authority u.path)
    (hdots : ∀ x ∈ u.path.segmentList, Path.DotFree x) : parse none u.text = .ok u := by
  obtain ⟨x, xs, hp, havoids⟩ := hu.segments_of_none ha hrooted
  have hneeds : u.dotMark = Path.beginsWithTwoSlashes (.segments (x :: xs)) := by
    rw [hmark, needsDotMark, ha, hp]
    rfl
  have hself : ({ u with
      authority := none
      path := .segments (x :: xs)
      dotMark := needsDotMark none (.segments (x :: xs)) } : Url) = u := by
    obtain ⟨scheme, authority, dotMark, path, query, fragment⟩ := u
    cases ha
    cases hp
    cases hneeds
    rfl
  have hbody : u.reference.body = u.tailText := bodyText_of_none ha
  rw [tailText, hp, Path.text_segments_cons] at hbody
  rw [hp] at hdots
  rw [hu.parse_text_of_none ha]
  cases hslashes : u.dotMark with
  | true =>
    -- the mark is a segment of one dot, which the walk passes over
    rw [hslashes] at hbody
    have hdotted : u.reference.body = '/' :: Text.join '/' (['.'] :: x :: xs) := by
      rw [hbody, Text.join_cons_cons]
      rfl
    have hhead : (Text.join '/' (['.'] :: x :: xs)).head? ≠ some '/' := by
      rw [Text.join_cons_cons]
      rintro ⟨⟩
    rw [ofNonspecial_of_slash hdotted hhead,
      Path.read_dot_join (List.cons_ne_nil _ _) havoids hdots, hu.complete_reference, hself]
  | false =>
    rw [hslashes] at hbody hneeds
    have hhead := head?_join_ne_slash (havoids x List.mem_cons_self) hneeds.symm
    rw [ofNonspecial_of_slash hbody hhead, Path.read_join (List.cons_ne_nil _ _) havoids hdots,
      hu.complete_reference, hself]

/-! ## Reading a file URL -/

theorem not_isDrive_of_valid {h : Host} (hvalid : h.Valid true) : Path.isDrive h.text = false := by
  cases hdrive : Path.isDrive h.text with
  | false => rfl
  | true =>
    unfold Path.isDrive at hdrive
    split at hdrive
    · -- only an IPv6 address has a character that can mark a drive, and it begins with a bracket
      rename_i a b htext
      rw [Bool.and_eq_true] at hdrive
      have hplain (hmarks : Text.Avoids Path.isDriveMark h.text) : false = true := by
        rw [htext, Text.avoids_cons, Text.avoids_cons, hdrive.2] at hmarks
        cases hmarks.2.1
      cases h with
      | name t =>
        refine (hplain (hvalid.2.1.mono fun c hc ↦ ?_)).symm
        simp only [Path.isDriveMark, Bool.or_eq_true, beq_iff_eq] at hc
        rcases hc with rfl | rfl <;> rfl
      | ipv4 address => exact (hplain (Ipv4.avoids_text (by decide) (by decide) address)).symm
      | ipv6 address =>
        rw [← (List.cons.inj htext).1] at hdrive
        cases hdrive.1
    · exact absurd hdrive (by simp)

/-- A host in front of the path of a file URL is split off. -/
theorem splitFileHost_text {h : Host} (hvalid : h.Valid true ∨ h = .none) {rest : Text}
    (hrest : ∀ c ∈ rest.head?, c = '/') : splitFileHost (h.text ++ rest) = (h.text, rest) := by
  have hends : Text.Avoids (endsAuthority true) h.text := by
    rcases hvalid with hvalid | rfl
    · exact hvalid.avoids_endsAuthority
    · exact Host.avoids_text_none
  have hbreaks : Text.Avoids Text.isBreak h.text := by
    rcases hvalid with hvalid | rfl
    · exact hvalid.avoids_isControlOrSpace.mono fun c ↦ Text.isControlOrSpace_of_isBreak
    · exact Host.avoids_text_none
  have hall : ∀ c ∈ h.text, (!endsAuthority true c) = true := fun c hc ↦ by simp [hends c hc]
  have hstop : ∀ c ∈ rest.head?, (!endsAuthority true c) = false := by
    intro c hc
    rw [hrest c hc]
    rfl
  rw [splitFileHost, Text.takeWhile_append_stop hall hstop, Text.dropWhile_append_stop hall hstop,
    Text.withoutBreaks_of_avoids hbreaks]

theorem ofFileAuthority_of_none {rest : Text} (hrest : ∀ c ∈ rest.head?, c = '/') (r : Reference) :
    ofFileAuthority rest r = .ok (ofFilePath .none (.read true true [] rest) r) := by
  have hsplit : splitFileHost rest = ([], rest) := splitFileHost_text (.inr rfl) hrest
  rw [ofFileAuthority, hsplit]
  rfl

theorem ofFileAuthority_of_valid {h : Host} (hvalid : h.Valid true) {rest : Text}
    (hrest : ∀ c ∈ rest.head?, c = '/') (r : Reference) :
    ofFileAuthority (h.text ++ rest) r =
      readFileHost h.text >>= fun host ↦
        if host.isNone then .ok (ofFilePath .none (.read true true [] rest) r)
        else
          .ok (ofFilePath
            (if Path.comesToDrive [] (Path.piecesOf true (Text.dropOne (isPathSeparator true) rest))
              then .none else host)
            (.read true true [] (Text.dropOne (isPathSeparator true) rest)) r) := by
  have hne : h.text.isEmpty = false := by simpa using hvalid.text_ne_nil
  rw [ofFileAuthority, splitFileHost_text (.inl hvalid) hrest]
  simp only [hne, not_isDrive_of_valid hvalid, Bool.or_self, Bool.false_eq_true, if_false]
  rfl

/-- A file URL is read from its host on. -/
theorem WellFormed.parse_text_of_file (hu : u.WellFormed) (hfile : u.scheme.isFile = true)
    {h : Host} (ha : u.authority = some (.ofHost h)) :
    parse none u.text = ofFileAuthority (h.text ++ u.path.text) u.reference := by
  have hmark := hu.dotMark_eq_false_of_isSpecial (Scheme.isSpecial_of_isFile hfile)
  have htext : (Authority.ofHost h).text = h.text := List.append_nil _
  have hbody : u.reference.body = '/' :: '/' :: (h.text ++ u.path.text) := by
    rw [reference, bodyText_of_authority ha, htext, tailText_of_not_dotMark hmark]
  rw [parse, hu.ofText_text, ofReference]
  simp only [reference, hfile, if_true, Option.filter_none]
  rw [← reference, ofFile, hbody]
  rfl

theorem WellFormed.segments_of_isSpecial (hu : u.WellFormed)
    (hspecial : u.scheme.isSpecial = true) :
    ∃ x xs, u.path = .segments (x :: xs) ∧
      ∀ y ∈ x :: xs, Text.Avoids (Path.segmentSet true) y := by
  have hpath := hu.path_wellFormed
  cases hp : u.path with
  | rootless t =>
    rw [hp] at hpath
    rw [hpath.1] at hspecial
    exact absurd hspecial (by simp)
  | segments ss =>
    rw [hp] at hpath
    obtain ⟨havoids, hempty, -⟩ := hpath
    rw [hspecial] at havoids
    obtain ⟨x, xs, rfl⟩ : ∃ x xs, ss = x :: xs := by
      refine List.exists_cons_of_ne_nil fun hnil ↦ ?_
      have hnot := (hempty hnil).1
      rw [hspecial] at hnot
      exact absurd hnot (by simp)
    exact ⟨x, xs, rfl, havoids⟩

theorem WellFormed.ofFilePath_reference (hu : u.WellFormed) (hfile : u.scheme.isFile = true)
    (host : Host) (path : Path) :
    ofFilePath host path u.reference =
      { u with authority := some (.ofHost host), path, dotMark := false } := by
  rw [ofFilePath, ← Scheme.eq_file_of_isFile hfile, hu.complete_reference]
  rfl

theorem readFileHost_eq_ok_iff {t : Text} {h : Host} (hne : h ≠ .none) (hlocal : h ≠ localhost) :
    readFileHost t = .ok h ↔ Host.special t = .ok h := by
  rw [readFileHost, bind_eq_ok_iff]
  constructor
  · rintro ⟨found, hfound, hh⟩
    cases hh
    split at hne
    · exact absurd rfl hne
    · rename_i hnot
      rw [if_neg hnot]
      exact hfound
  · intro h
    exact ⟨_, h, by rw [if_neg hlocal]; rfl⟩

/-- What a file URL with a host is read as. -/
theorem WellFormed.parse_text_of_fileHost (hu : u.WellFormed) (hfile : u.scheme.isFile = true)
    {h : Host} (ha : u.authority = some (.ofHost h)) (hvalid : h.Valid true) {x : Text}
    {xs : List Text} (hp : u.path = .segments (x :: xs))
    (havoids : ∀ y ∈ x :: xs, Text.Avoids (Path.segmentSet true) y) :
    parse none u.text =
      readFileHost h.text >>= fun host ↦
        if host.isNone then
          .ok { u with
            authority := some (.ofHost .none)
            dotMark := false
            path := .read true true [] ('/' :: Text.join '/' (x :: xs)) }
        else
          .ok { u with
            authority := some (.ofHost
              (if Path.comesToDrive [] ((x :: xs).map Path.plainPiece) then .none else host))
            dotMark := false
            path := .read true true [] (Text.join '/' (x :: xs)) } := by
  have hslash := Path.head?_text (show u.path.isRootless = false by rw [hp]; rfl)
  rw [hu.parse_text_of_file hfile ha, ofFileAuthority_of_valid hvalid hslash, hp,
    Path.text_segments_cons, Text.dropOne, if_pos (by rfl),
    Path.piecesOf_join (List.cons_ne_nil _ _) havoids]
  simp only [hu.ofFilePath_reference hfile]

/-! ## Settled URLs -/

/-- What it takes for a URL to be read back as it is. A mark stands in front of the path where one
is needed and nowhere else; a password has a host; the mapping of domain names leaves the host
alone; no segment stands for one or two dots; and no drive stands behind the host of a file URL. -/
structure Settled (u : Url) : Prop where
  dotMark : u.dotMark = needsDotMark u.authority u.path
  password : ∀ a, u.authority = some a → a.host = .none → a.password = []
  name : u.scheme.isSpecial = true → ∀ t, u.host = .name t → Domain.toAscii? t = some t
  dotFree : ∀ x ∈ u.path.segmentList, Path.DotFree x
  drive : u.scheme.isFile = true → u.host ≠ .none →
    ∀ x ∈ u.path.segmentList.head?, Path.isDrive x = false

theorem WellFormed.parse_text_of_settled_authority (hu : u.WellFormed) (hs : u.Settled)
    {a : Authority} (ha : u.authority = some a) (hfile : u.scheme.isFile = false) :
    parse none u.text = .ok u := by
  have hmark : u.dotMark = false := by
    rw [hs.dotMark, needsDotMark, ha]
    rfl
  have hvalid := (hu.authority_wellFormed a ha).host_valid_of_not_isFile hfile
  have hreread : a.host.reread u.scheme.isSpecial = .ok a.host := by
    refine (Host.reread_eq_ok_iff hvalid).mpr fun hspecial t ht ↦ hs.name hspecial t ?_
    rw [host_eq ha, ht]
  rw [hu.parse_text_of_authority ha hfile, hreread, tailText_of_not_dotMark hmark,
    hu.pathAfterAuthority_text (hu.isRootless_eq_false ha) hfile hs.dotFree,
    if_neg fun h ↦ h.2 (hs.password a ha h.1)]
  obtain ⟨scheme, authority, dotMark, path, query, fragment⟩ := u
  cases ha
  cases hmark
  rfl

theorem WellFormed.parse_text_of_settled_file (hu : u.WellFormed) (hs : u.Settled)
    {a : Authority} (ha : u.authority = some a) (hfile : u.scheme.isFile = true) :
    parse none u.text = .ok u := by
  have hwf := hu.authority_wellFormed a ha
  have hhost := host_eq ha
  obtain ⟨hofHost, hlocal⟩ := hwf.file hfile
  rw [hofHost] at ha
  have hspecial := Scheme.isSpecial_of_isFile hfile
  have hmark := hu.dotMark_eq_false_of_isSpecial hspecial
  obtain ⟨x, xs, hp, havoids⟩ := hu.segments_of_isSpecial hspecial
  have hpath := hu.path_wellFormed
  rw [hp] at hpath
  have hroots := hpath.2.2 hfile
  have hdots : ∀ y ∈ x :: xs, Path.DotFree y := by
    have hdots := hs.dotFree
    rwa [hp] at hdots
  have hself (h : Host) (hh : h = a.host) : ({ u with
      authority := some (.ofHost h)
      dotMark := false
      path := .segments (x :: xs) } : Url) = u := by
    obtain ⟨scheme, authority, dotMark, path, query, fragment⟩ := u
    cases ha
    cases hmark
    cases hp
    cases hh
    rfl
  rcases hwf.host_valid with hvalid | ⟨-, hnone⟩
  -- the host is read again, and there is no drive that would take its place
  · rw [hspecial] at hvalid
    have hne := hvalid.ne_none
    have hread : readFileHost a.host.text = .ok a.host := by
      refine (readFileHost_eq_ok_iff hne hlocal).mpr ?_
      refine (Host.special_text_eq_ok_iff hvalid).mpr fun t ht ↦ hs.name hspecial t ?_
      rw [hhost, ht]
    have hdrive : ∀ y ∈ (x :: xs).head?, Path.isDrive y = false := by
      have hdrive := hs.drive hfile (by rwa [hhost])
      rwa [hp] at hdrive
    rw [hu.parse_text_of_fileHost hfile ha hvalid hp havoids, hread, ok_bind,
      Host.isNone_eq_false_iff.mpr hne, if_neg (by simp),
      Path.comesToDrive_plainPiece hdots fun _ ↦ hdrive, if_neg (by simp),
      Path.readFile_join (List.cons_ne_nil _ _) havoids hdots hroots hdrive, hself _ rfl]
  -- the three slashes leave an empty segment at the root, which is dropped
  · have hslash := Path.head?_text (show u.path.isRootless = false by rw [hp]; rfl)
    have htext : a.host.text ++ u.path.text = u.path.text := by
      rw [hnone]
      rfl
    rw [hu.parse_text_of_file hfile ha, htext, ofFileAuthority_of_none hslash,
      hu.ofFilePath_reference hfile, hp, Path.text_segments_cons,
      Path.read_slash_join (List.cons_ne_nil _ _) havoids hdots hroots]
    exact congrArg Except.ok (hself _ hnone.symm)

/-- A settled URL is read back. -/
theorem WellFormed.parse_text_of_settled (hu : u.WellFormed) (hs : u.Settled) :
    parse none u.text = .ok u := by
  cases ha : u.authority with
  | none =>
    cases hp : u.path with
    | rootless t => exact hu.parse_text_of_rootless hp
    | segments ss => exact hu.parse_text_of_segments ha (by rw [hp]; rfl) hs.dotMark hs.dotFree
  | some a =>
    cases hfile : u.scheme.isFile with
    | false => exact hu.parse_text_of_settled_authority hs ha hfile
    | true => exact hu.parse_text_of_settled_file hs ha hfile

/-- When a URL comes back, so does its host. -/
theorem WellFormed.reread_of_parse (hu : u.WellFormed) (h : parse none u.text = .ok u)
    {a : Authority} (ha : u.authority = some a) (hfile : u.scheme.isFile = false) :
    a.host.reread u.scheme.isSpecial = .ok a.host := by
  rw [hu.parse_text_of_authority ha hfile] at h
  split at h
  · exact absurd h (by simp)
  · obtain ⟨found, hfound, hsame⟩ := bind_eq_ok_iff.mp h
    have hauthority := congrArg Url.authority (Except.ok.inj hsame)
    rw [ha] at hauthority
    have hhost : found = a.host := congrArg Authority.host (Option.some.inj hauthority)
    rwa [hhost] at hfound

/-- When a file URL comes back, so does its host, and no drive takes its place. -/
theorem WellFormed.fileHost_of_parse (hu : u.WellFormed) (h : parse none u.text = .ok u)
    {a : Authority} (ha : u.authority = some a) (hfile : u.scheme.isFile = true)
    (hne : a.host ≠ .none) :
    Host.special a.host.text = .ok a.host ∧
      ∀ x ∈ u.path.segmentList.head?, Path.isDrive x = false := by
  have hwf := hu.authority_wellFormed a ha
  have hspecial := Scheme.isSpecial_of_isFile hfile
  have hvalid := hwf.host_valid_of_ne_none hne
  rw [hspecial] at hvalid
  obtain ⟨hofHost, hlocal⟩ := hwf.file hfile
  obtain ⟨x, xs, hp, havoids⟩ := hu.segments_of_isSpecial hspecial
  rw [hofHost] at ha
  rw [hu.parse_text_of_fileHost hfile ha hvalid hp havoids] at h
  obtain ⟨found, hfound, hsame⟩ := bind_eq_ok_iff.mp h
  -- of the three ways to go on, two leave the URL without a host
  split at hsame
  · have hauthority := congrArg Url.authority (Except.ok.inj hsame)
    rw [ha] at hauthority
    exact absurd (congrArg Authority.host (Option.some.inj hauthority)).symm hne
  · have hauthority := congrArg Url.authority (Except.ok.inj hsame)
    rw [ha] at hauthority
    have hhost := congrArg Authority.host (Option.some.inj hauthority)
    simp only [Authority.ofHost] at hhost
    split at hhost
    · exact absurd hhost.symm hne
    · rename_i hdrive
      rw [hhost] at hfound
      refine ⟨(readFileHost_eq_ok_iff hne hlocal).mp hfound, fun y hy ↦ ?_⟩
      rw [hp] at hy
      refine Bool.eq_false_iff.mpr fun hisDrive ↦ hdrive ?_
      rw [← Option.some.inj hy] at hisDrive
      exact Path.comesToDrive_of_isDrive hisDrive

/-- When a URL comes back, the mapping of domain names has left its host alone. -/
theorem WellFormed.toAscii?_of_parse (hu : u.WellFormed) (h : parse none u.text = .ok u)
    (hspecial : u.scheme.isSpecial = true) {t : Text} (ht : u.host = .name t) :
    Domain.toAscii? t = some t := by
  obtain ⟨a, ha⟩ := Option.isSome_iff_exists.mp (hu.authority_isSome hspecial)
  rw [host_eq ha] at ht
  by_cases hnone : a.host = .none
  · cases hnone.symm.trans ht
    rfl
  · have hvalid := (hu.authority_wellFormed a ha).host_valid_of_ne_none hnone
    cases hfile : u.scheme.isFile with
    | false => exact (Host.reread_eq_ok_iff hvalid).mp (hu.reread_of_parse h ha hfile) hspecial t ht
    | true =>
      rw [hspecial] at hvalid
      exact (Host.special_text_eq_ok_iff hvalid).mp (hu.fileHost_of_parse h ha hfile hnone).1 t ht

/-- **A URL is read back exactly when it is settled.** -/
theorem WellFormed.parse_text_eq_ok_iff (hu : u.WellFormed) :
    parse none u.text = .ok u ↔ u.Settled := by
  refine ⟨fun h ↦ ?_, hu.parse_text_of_settled⟩
  exact {
    dotMark := dotMark_of_parse h
    password := fun a ha hnone ↦ password_of_parse h ha hnone
    name := fun hspecial t ht ↦ hu.toAscii?_of_parse h hspecial ht
    dotFree := dotFree_of_parse h fun _ ↦ hu.avoids_isBreak_text
    drive := fun hfile hne ↦ by
      obtain ⟨a, ha⟩ := Option.isSome_iff_exists.mp
        (hu.authority_isSome (Scheme.isSpecial_of_isFile hfile))
      rw [host_eq ha] at hne
      exact (hu.fileHost_of_parse h ha hfile hne).2 }

end Url

end UrlCalculus
