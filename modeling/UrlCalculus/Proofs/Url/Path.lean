import UrlCalculus.Proofs.Text.Encoding
import UrlCalculus.Url.Authority
import UrlCalculus.Url.Path

/-!
# Paths read back

The segments that walking a path reaches are encoded and contain no separator, so they can be
written and cut apart again. Walking them a second time leads to the same place as long as none of
them is taken for a step on the way: none stands for one or two dots, and at the root of a file URL
none is a drive with a bar.

Walking itself never leaves dots behind, with one exception: in a file URL, what a break parts from
a drive is taken as it is.
-/

namespace UrlCalculus

namespace Path

/-! ## Segments -/

/-- The characters that no segment contains. -/
def segmentSet (isSpecial : Bool) : EncodeSet := fun c ↦
  EncodeSet.path c || isPathSeparator isSpecial c

/-- The characters that no rootless path contains. -/
def rootlessSet : EncodeSet := EncodeSet.controls.adding ['?', '#']

/-- Whether a text stands for no step but down. -/
def DotFree (t : Text) : Prop := isDoubleDot t = false ∧ isSingleDot t = false

instance (t : Text) : Decidable (DotFree t) := inferInstanceAs (Decidable (_ ∧ _))

theorem goesDown_iff {p : Piece} : goesDown p = true ↔ DotFree p.text := by
  simp [goesDown, DotFree]

theorem dotFree_nil : DotFree [] := ⟨rfl, rfl⟩

theorem avoids_segmentSet {isSpecial : Bool} {t : Text} :
    Text.Avoids (segmentSet isSpecial) t ↔
      Text.Avoids EncodeSet.path t ∧ Text.Avoids (isPathSeparator isSpecial) t := by
  constructor
  · intro h
    exact ⟨h.mono fun c hc ↦ by simp [segmentSet, hc], h.mono fun c hc ↦ by simp [segmentSet, hc]⟩
  · rintro ⟨hpath, hseparator⟩
    exact hpath.or hseparator

/-- What is known of a path that was read. A path without segments stands behind an authority. -/
def WellFormed (s : Scheme) (hasAuthority : Bool) : Path → Prop
  | .rootless t =>
    s.isSpecial = false ∧ hasAuthority = false ∧ Text.Avoids rootlessSet t ∧ t.head? ≠ some '/'
  | .segments ss =>
    (∀ x ∈ ss, Text.Avoids (segmentSet s.isSpecial) x) ∧
      (ss = [] → s.isSpecial = false ∧ hasAuthority = true) ∧
      (s.isFile = true → dropEmptyRoots ss = ss)

/-! ## Pieces -/

/-- Without breaks nothing is parted. -/
theorem hasPartedDrive_of_avoids {t : Text} (h : Text.Avoids Text.isBreak t) :
    Piece.hasPartedDrive t = false := by
  cases t with
  | nil => rfl
  | cons c t =>
    rw [Text.avoids_cons] at h
    rw [Piece.hasPartedDrive, Text.next?_of_avoids h.1]
    cases t with
    | nil => rfl
    | cons d t =>
      obtain ⟨hd, ht⟩ := Text.avoids_cons.mp h.2
      simp only [Text.next?_of_avoids hd]
      split
      · rename_i e rest heq
        cases heq
        rw [(Text.avoids_cons.mp ht).1, Bool.and_false, Bool.false_and]
      · rfl

/-- A piece that needs no encoding and has no break. -/
def plainPiece (t : Text) : Piece := ⟨t, false⟩

theorem ofText_of_avoids {t : Text} (h : Text.Avoids EncodeSet.path t) :
    Piece.ofText t = plainPiece t := by
  have hbreaks : Text.Avoids Text.isBreak t :=
    h.mono fun c hc ↦ EncodeSet.path_of_controls (EncodeSet.controls_of_isBreak hc)
  rw [Piece.ofText, Text.withoutBreaks_of_avoids hbreaks, Text.percentEncode_of_avoids h,
    hasPartedDrive_of_avoids hbreaks]
  rfl

theorem piecesOf_eq (isSpecial : Bool) (t : Text) :
    piecesOf isSpecial t = (Text.pieces (isPathSeparator isSpecial) t).map Piece.ofText := rfl

theorem piecesOf_join {isSpecial : Bool} {ss : List Text} (hne : ss ≠ [])
    (h : ∀ x ∈ ss, Text.Avoids (segmentSet isSpecial) x) :
    piecesOf isSpecial (Text.join '/' ss) = ss.map plainPiece := by
  rw [piecesOf_eq, Text.pieces_join (by rfl) hne fun x hx ↦ (avoids_segmentSet.mp (h x hx)).2]
  exact List.map_congr_left fun x hx ↦ ofText_of_avoids (avoids_segmentSet.mp (h x hx)).1

theorem piecesOf_ne_nil (isSpecial : Bool) (t : Text) : piecesOf isSpecial t ≠ [] := by
  rw [piecesOf, Ne, List.map_eq_nil_iff]
  exact Text.pieces_ne_nil _ t

theorem avoids_of_mem_piecesOf {isSpecial : Bool} {t : Text} {p : Piece}
    (h : p ∈ piecesOf isSpecial t) : Text.Avoids (segmentSet isSpecial) p.text := by
  obtain ⟨x, hx, rfl⟩ := List.mem_map.mp h
  rw [avoids_segmentSet]
  refine ⟨Text.avoids_percentEncode_self Text.avoids_encodingChars_path _,
    Text.avoids_percentEncode (by cases isSpecial <;> decide) fun c hc _ ↦ ?_⟩
  exact (Text.avoids_of_mem_pieces hx).withoutBreaks c hc

theorem parted_of_mem_piecesOf {isSpecial : Bool} {t : Text} (ht : Text.Avoids Text.isBreak t)
    {p : Piece} (h : p ∈ piecesOf isSpecial t) : p.parted = false := by
  obtain ⟨x, hx, rfl⟩ := List.mem_map.mp h
  exact hasPartedDrive_of_avoids (ht.of_subset fun _ hc ↦ Text.mem_of_mem_pieces hx hc)

/-! ## What a walk reaches -/

theorem mem_of_mem_ascend {above : List Text} {x : Text} (h : x ∈ ascend above) : x ∈ above := by
  rw [ascend] at h
  split at h
  · exact absurd h (by simp)
  · split at h
    · exact h
    · exact List.dropLast_subset _ h

variable {P : Text → Prop} {isFile : Bool}

/-- One step preserves what holds of the segments above and of those that settling adds. -/
theorem forall_step {above : List Text} {p : Piece} (habove : ∀ x ∈ above, P x)
    (hsettle : DotFree p.text → ∀ x ∈ settle isFile above p, P x) :
    ∀ x ∈ step isFile above p, P x := by
  intro x hx
  rw [step] at hx
  split at hx
  · exact habove x (mem_of_mem_ascend hx)
  · split at hx
    · exact habove x hx
    · rename_i hdouble hsingle
      rcases List.mem_append.mp hx with hx | hx
      · exact habove x hx
      · exact hsettle ⟨by simpa using hdouble, by simpa using hsingle⟩ x hx

/-- A walk preserves what each of its steps preserves, and may leave an empty segment at its end. -/
theorem forall_walk (hnil : P []) {above : List Text} {ps : List Piece} (habove : ∀ x ∈ above, P x)
    (hsettle : ∀ p ∈ ps, DotFree p.text → ∀ above, ∀ x ∈ settle isFile above p, P x) :
    ∀ x ∈ walk isFile above ps, P x := by
  induction ps generalizing above with
  | nil => exact habove
  | cons p ps ih =>
    have hstep := forall_step habove fun hdot ↦ hsettle p List.mem_cons_self hdot above
    -- the last piece is a case of its own: a step up or nowhere leaves an empty segment behind
    cases ps with
    | nil =>
      rw [walk]
      split
      · exact hstep
      · intro x hx
        rcases List.mem_append.mp hx with hx | hx
        · exact hstep x hx
        · rw [List.mem_singleton.mp hx]
          exact hnil
    | cons q qs =>
      rw [walk]
      · exact ih hstep fun r hr ↦ hsettle r (List.mem_cons_of_mem _ hr)
      · rintro ⟨⟩

theorem settle_ne_nil (isFile : Bool) (above : List Text) (p : Piece) :
    settle isFile above p ≠ [] := by
  rw [settle]
  split
  · split
    · simp
    · split <;> simp
  · simp

theorem walk_ne_nil {above : List Text} {ps : List Piece} (h : ps ≠ []) :
    walk isFile above ps ≠ [] := by
  induction ps generalizing above with
  | nil => exact absurd rfl h
  | cons p ps ih =>
    cases ps with
    | nil =>
      rw [walk]
      split
      · rename_i hdown
        obtain ⟨hdouble, hsingle⟩ := goesDown_iff.mp hdown
        rw [step, if_neg (by simp [hdouble]), if_neg (by simp [hsingle])]
        exact fun hnil ↦ settle_ne_nil isFile above p (List.append_eq_nil_iff.mp hnil).2
      · simp
    | cons q qs =>
      rw [walk]
      · exact ih (List.cons_ne_nil _ _)
      · rintro ⟨⟩

/-- Settling keeps to the characters of segments: it cuts a text or writes a colon. -/
theorem avoids_of_mem_settle {isSpecial : Bool} {p : Piece}
    (hp : Text.Avoids (segmentSet isSpecial) p.text) (above : List Text) :
    ∀ x ∈ settle isFile above p, Text.Avoids (segmentSet isSpecial) x := by
  have hcolon : segmentSet isSpecial ':' = false := by cases isSpecial <;> rfl
  intro x hx
  rw [settle] at hx
  split at hx
  · split at hx
    · simp only [List.mem_cons, List.not_mem_nil, or_false] at hx
      rcases hx with rfl | rfl
      · exact hp.of_subset fun _ ↦ List.mem_of_mem_take
      · exact hp.of_subset fun _ ↦ List.mem_of_mem_drop
    · split at hx
      · rw [List.mem_singleton.mp hx]
        simp [hp.of_subset fun _ ↦ List.mem_of_mem_take, hcolon]
      · rw [List.mem_singleton.mp hx]
        exact hp
  · rw [List.mem_singleton.mp hx]
    exact hp

theorem dotFree_of_isDrive {t : Text} (h : isDrive t = true) : DotFree (t.take 1 ++ [':']) := by
  unfold isDrive at h
  split at h
  · rename_i a b
    have ha : a ≠ '.' ∧ a ≠ '%' := by
      constructor
      · rintro rfl
        exact absurd h (by simp)
      · rintro rfl
        exact absurd h (by simp)
    simp [DotFree, isDoubleDot, isSingleDot, dropDot?, ha.1, ha.2]
  · exact absurd h (by simp)

/-- Without breaks, and outside file URLs in any case, settling adds no dots. -/
theorem dotFree_of_mem_settle {p : Piece} (hparted : isFile = true → p.parted = false)
    (hp : DotFree p.text) (above : List Text) : ∀ x ∈ settle isFile above p, DotFree x := by
  intro x hx
  rw [settle] at hx
  split at hx
  · -- only at the root of a file URL something else than the piece itself is settled
    rename_i hroot
    have hfile : isFile = true := by
      cases isFile with
      | true => rfl
      | false => cases hroot
    rw [if_neg (by simp [hparted hfile])] at hx
    split at hx
    · rename_i hdrive
      rw [List.mem_singleton.mp hx]
      exact dotFree_of_isDrive hdrive
    · rw [List.mem_singleton.mp hx]
      exact hp
  · rw [List.mem_singleton.mp hx]
    exact hp

/-! ## The segments of a file URL -/

theorem dropEmptyRoots_ne_nil (ss : List Text) : dropEmptyRoots ss ≠ [] := by
  rw [dropEmptyRoots]
  split
  · simp
  · assumption

theorem mem_of_mem_dropEmptyRoots {ss : List Text} {x : Text} (h : x ∈ dropEmptyRoots ss) :
    x = [] ∨ x ∈ ss := by
  rw [dropEmptyRoots] at h
  split at h
  · exact .inl (List.mem_singleton.mp h)
  · exact .inr ((List.dropWhile_suffix _).subset h)

theorem dropEmptyRoots_dropEmptyRoots (ss : List Text) :
    dropEmptyRoots (dropEmptyRoots ss) = dropEmptyRoots ss := by
  rw [dropEmptyRoots.eq_def ss]
  split
  · rfl
  · rename_i hne
    rw [dropEmptyRoots]
    have hidem :
        (ss.dropWhile List.isEmpty).dropWhile List.isEmpty = ss.dropWhile List.isEmpty := by
      cases hss : ss.dropWhile List.isEmpty with
      | nil => rfl
      | cons x xs =>
        have hx := List.head?_dropWhile_not List.isEmpty ss
        rw [hss] at hx
        exact List.dropWhile_cons_of_neg (by simpa using hx)
    rw [hidem]
    split
    · rename_i hnil
      exact absurd hnil hne
    · rfl

/-- An empty segment in front of the segments of a file URL is dropped. -/
theorem dropEmptyRoots_nil_cons (ss : List Text) :
    dropEmptyRoots ([] :: ss) = dropEmptyRoots ss := by
  rw [dropEmptyRoots, dropEmptyRoots, List.dropWhile_cons_of_pos (by rfl)]

/-! ## Reading -/

section Reading

variable {s : Scheme} {hasAuthority : Bool} {ps : List Piece}

theorem avoids_of_mem_walk {isSpecial : Bool}
    (hps : ∀ p ∈ ps, Text.Avoids (segmentSet isSpecial) p.text) :
    ∀ x ∈ walk isFile [] ps, Text.Avoids (segmentSet isSpecial) x :=
  forall_walk Text.avoids_nil (fun x hx ↦ by cases hx)
    fun p hp _ above ↦ avoids_of_mem_settle (hps p hp) above

theorem dotFree_of_mem_walk (hps : isFile = true → ∀ p ∈ ps, p.parted = false) :
    ∀ x ∈ walk isFile [] ps, DotFree x :=
  forall_walk dotFree_nil (fun x hx ↦ by cases hx)
    fun p hp hdot above ↦ dotFree_of_mem_settle (fun hfile ↦ hps hfile p hp) hdot above

theorem wellFormed_ofFileSegments {ss : List Text} (h : ∀ x ∈ ss, Text.Avoids (segmentSet true) x)
    (hspecial : s.isSpecial = true) : (ofFileSegments ss).WellFormed s hasAuthority := by
  refine ⟨fun x hx ↦ ?_, fun hnil ↦ absurd hnil (dropEmptyRoots_ne_nil ss),
    fun _ ↦ dropEmptyRoots_dropEmptyRoots ss⟩
  rw [hspecial]
  rcases mem_of_mem_dropEmptyRoots hx with rfl | hx
  · exact Text.avoids_nil
  · exact h x hx

theorem isRootless_read (isSpecial isFile : Bool) (above : List Text) (t : Text) :
    (read isSpecial isFile above t).isRootless = false := by
  rw [read]
  split <;> rfl

/-- **A path that was read is well-formed.** -/
theorem wellFormed_read (s : Scheme) (hasAuthority : Bool) (t : Text) :
    (read s.isSpecial s.isFile [] t).WellFormed s hasAuthority := by
  have havoids : ∀ x ∈ walk s.isFile [] (piecesOf s.isSpecial t),
      Text.Avoids (segmentSet s.isSpecial) x := avoids_of_mem_walk fun p ↦ avoids_of_mem_piecesOf
  rw [read]
  cases hfile : s.isFile with
  | true =>
    have hspecial : s.isSpecial = true := by rw [Scheme.isSpecial, hfile, Bool.true_or]
    rw [hspecial, hfile] at havoids
    rw [hspecial]
    exact wellFormed_ofFileSegments havoids hspecial
  | false =>
    rw [hfile] at havoids
    exact ⟨havoids, fun hnil ↦ absurd hnil (walk_ne_nil (piecesOf_ne_nil _ t)), fun h ↦ by
      rw [hfile] at h
      cases h⟩

/-- A path read from a text without breaks, or outside file URLs, has no dots. -/
theorem dotFree_of_mem_read {isSpecial : Bool} {t : Text}
    (ht : isFile = true → Text.Avoids Text.isBreak t) :
    ∀ x ∈ (read isSpecial isFile [] t).segmentList, DotFree x := by
  have hwalk : ∀ x ∈ walk isFile [] (piecesOf isSpecial t), DotFree x :=
    dotFree_of_mem_walk fun hfile p ↦ parted_of_mem_piecesOf (ht hfile)
  rw [read]
  split
  · intro x hx
    rcases mem_of_mem_dropEmptyRoots hx with rfl | hx
    · exact dotFree_nil
    · exact hwalk x hx
  · exact hwalk

end Reading

/-! ## Reading back -/

section ReadingBack

variable {above ss : List Text} {x : Text}

theorem text_segments_cons (x : Text) (xs : List Text) :
    (segments (x :: xs)).text = '/' :: Text.join '/' (x :: xs) :=
  Text.flatMap_cons_eq_join '/' x xs

/-- A piece settles as it is unless it is a drive with a bar at the root of a file URL. -/
theorem settle_plainPiece
    (h : isFile = true → above = [] → isDrive x = true → isNormalDrive x = true) :
    settle isFile above (plainPiece x) = [x] := by
  rw [settle, plainPiece]
  split
  · rename_i hroot
    obtain ⟨hfile, habove⟩ : isFile = true ∧ above = [] := by simpa using hroot
    rw [if_neg (by simp)]
    split
    · rename_i hdrive
      have hnormal := h hfile habove hdrive
      unfold isNormalDrive at hnormal
      split at hnormal
      · rfl
      · exact absurd hnormal (by simp)
    · rfl
  · rfl

theorem step_plainPiece (hdots : DotFree x)
    (h : isFile = true → above = [] → isDrive x = true → isNormalDrive x = true) :
    step isFile above (plainPiece x) = above ++ [x] := by
  rw [step, if_neg (by simp [plainPiece, hdots.1]), if_neg (by simp [plainPiece, hdots.2]),
    settle_plainPiece h]

/-- **Walking down segments leads to these segments.** -/
theorem walk_plainPiece (hdots : ∀ x ∈ ss, DotFree x)
    (h : isFile = true → above = [] → ∀ x ∈ ss.head?, isDrive x = true → isNormalDrive x = true) :
    walk isFile above (ss.map plainPiece) = above ++ ss := by
  induction ss generalizing above with
  | nil => exact (List.append_nil above).symm
  | cons x xs ih =>
    have hstep := step_plainPiece (hdots x List.mem_cons_self)
      fun hfile habove ↦ h hfile habove x rfl
    cases xs with
    | nil =>
      rw [List.map_cons, List.map_nil, walk,
        if_pos (goesDown_iff.mpr (hdots x List.mem_cons_self)), hstep]
    | cons y ys =>
      rw [List.map_cons, walk, hstep, ih (fun z hz ↦ hdots z (List.mem_cons_of_mem _ hz))
        fun _ habove ↦ absurd habove (by simp)]
      · rw [List.append_assoc, List.singleton_append]
      · rintro ⟨⟩

/-- Segments are read back outside file URLs. -/
theorem read_join {isSpecial : Bool} (hne : ss ≠ [])
    (havoids : ∀ x ∈ ss, Text.Avoids (segmentSet isSpecial) x) (hdots : ∀ x ∈ ss, DotFree x) :
    read isSpecial false [] (Text.join '/' ss) = .segments ss := by
  have hwalk : walk false [] (ss.map plainPiece) = [] ++ ss :=
    walk_plainPiece hdots fun hfile ↦ by cases hfile
  rw [read, piecesOf_join hne havoids, hwalk]
  rfl

/-- A dot in front of segments is passed over. -/
theorem read_dot_join {isSpecial : Bool} (hne : ss ≠ [])
    (havoids : ∀ x ∈ ss, Text.Avoids (segmentSet isSpecial) x) (hdots : ∀ x ∈ ss, DotFree x) :
    read isSpecial false [] (Text.join '/' (['.'] :: ss)) = .segments ss := by
  have hread := read_join hne havoids hdots
  rw [read, piecesOf_join hne havoids] at hread
  have hdot : Text.Avoids (segmentSet isSpecial) ['.'] := by cases isSpecial <;> decide
  obtain ⟨x, xs, rfl⟩ := List.exists_cons_of_ne_nil hne
  rw [read, piecesOf_join (List.cons_ne_nil _ _), List.map_cons, walk]
  · exact hread
  · rw [List.map_cons]
    rintro ⟨⟩
  · intro y hy
    rcases List.mem_cons.mp hy with rfl | hy
    · exact hdot
    · exact havoids y hy

/-- In a file URL without a host an empty segment is read first, so a drive is not at the root. -/
theorem read_slash_join (hne : ss ≠ []) (havoids : ∀ x ∈ ss, Text.Avoids (segmentSet true) x)
    (hdots : ∀ x ∈ ss, DotFree x) (hroots : dropEmptyRoots ss = ss) :
    read true true [] ('/' :: Text.join '/' ss) = .segments ss := by
  obtain ⟨x, xs, rfl⟩ := List.exists_cons_of_ne_nil hne
  have hjoin : '/' :: Text.join '/' (x :: xs) = Text.join '/' ([] :: x :: xs) := by
    rw [Text.join_cons_cons, List.nil_append]
  have hwalk : walk true [] (([] :: x :: xs).map plainPiece) = [] ++ [] :: x :: xs := by
    refine walk_plainPiece (fun y hy ↦ ?_) fun _ _ y hy hdrive ↦ ?_
    · rcases List.mem_cons.mp hy with rfl | hy
      · exact dotFree_nil
      · exact hdots y hy
    · rw [← Option.some.inj hy] at hdrive
      cases hdrive
  rw [read, hjoin, piecesOf_join (List.cons_ne_nil _ _), hwalk]
  · rw [if_pos rfl, ofFileSegments, List.nil_append, dropEmptyRoots_nil_cons, hroots]
  · intro y hy
    rcases List.mem_cons.mp hy with rfl | hy
    · exact Text.avoids_nil
    · exact havoids y hy

/-- Behind a host the path of a file URL is read without an empty segment in front. -/
theorem readFile_join (hne : ss ≠ []) (havoids : ∀ x ∈ ss, Text.Avoids (segmentSet true) x)
    (hdots : ∀ x ∈ ss, DotFree x) (hroots : dropEmptyRoots ss = ss)
    (hdrive : ∀ x ∈ ss.head?, isDrive x = false) :
    read true true [] (Text.join '/' ss) = .segments ss := by
  have hwalk : walk true [] (ss.map plainPiece) = [] ++ ss := by
    refine walk_plainPiece hdots fun _ _ x hx hisDrive ↦ ?_
    rw [hdrive x hx] at hisDrive
    exact absurd hisDrive (by simp)
  rw [read, piecesOf_join hne havoids, hwalk, if_pos rfl, ofFileSegments, List.nil_append, hroots]

/-- Behind the root no drive settles. -/
theorem comesToDrive_plainPiece (hdots : ∀ x ∈ ss, DotFree x)
    (h : above = [] → ∀ x ∈ ss.head?, isDrive x = false) :
    comesToDrive above (ss.map plainPiece) = false := by
  induction ss generalizing above with
  | nil => rfl
  | cons x xs ih =>
    have hroot : (above.isEmpty && isDrive x) = false := by
      cases above with
      | nil => rw [h rfl x rfl, Bool.and_false]
      | cons y ys => rfl
    have hdrive : above = [] → isDrive x = true → isNormalDrive x = true := by
      intro habove hx
      rw [h habove x rfl] at hx
      exact absurd hx (by simp)
    rw [List.map_cons, comesToDrive, step_plainPiece (hdots x List.mem_cons_self) fun _ ↦ hdrive,
      ih (fun y hy ↦ hdots y (List.mem_cons_of_mem _ hy)) fun habove ↦ absurd habove (by simp)]
    simpa [plainPiece] using hroot

theorem comesToDrive_of_isDrive (h : isDrive x = true) :
    comesToDrive [] ((x :: ss).map plainPiece) = true := by
  simp [comesToDrive, plainPiece, h]

end ReadingBack

end Path

end UrlCalculus
