import UrlCalculus.Proofs.FieldSet.SearchParams
import UrlCalculus.Proofs.Record.Rereading
import UrlCalculus.Proofs.SearchParams

/-!
# Flattening a query

The query of a URL stands for pairs, in order and with repetitions, and the record of the URL has
them as a map. Names come together in it that differ in the query, since they are decoded first and
put into lower case then, and of the values that meet under one name only the last one is kept.

So the order of the pairs counts among those that meet, and nowhere else.
-/

namespace UrlCalculus

/-- Names and values as texts. -/
def textsOfPairs (pairs : List (String × String)) : List (Text × Text) :=
  pairs.map fun pair ↦ (pair.1.toList, pair.2.toList)

/-- The pairs of the query are those that it stands for as a form. -/
theorem Url.formReads_query_iff {u : Url} {pairs : List (String × String)} :
    Text.FormReads (u.query.getD []) (textsOfPairs pairs) ↔ pairs = u.queryPairs := by
  rw [Text.formReads_iff, Url.queryPairs]
  constructor
  · intro h
    rw [h, textsOfPairs, List.map_map]
    simp [Function.comp_def]
  · rintro rfl
    rw [textsOfPairs, List.map_map]
    simp [Function.comp_def]

namespace Record

theorem searchParams_of_ofString {s : String} {r : Record} {u : Url} (hu : Url.ofString s = .ok u)
    (hr : parse s = .ok r) : r.searchParams = .ofPairs u.queryPairs := by
  rw [parse_of_ofString hu] at hr
  obtain rfl := Except.ok.inj hr
  exact searchParams_ofUrl u

/-- **A query is flattened to the last value under each name in lower case.** The record of every
URL has exactly the names that pairs of its query have in lower case, with the values of the last
such pairs; and two URLs whose pairs differ in the order of neighbours that do not meet have the same
search parameters. -/
theorem searchParams_of_parse {s : String} {r : Record} (h : parse s = .ok r) :
    ∃ u, Url.ofString s = .ok u ∧
      (∀ pairs, Text.FormReads (u.query.getD []) (textsOfPairs pairs) ↔ pairs = u.queryPairs) ∧
      (∀ name, (r.searchParams.get? name).isSome = true ↔
        ∃ pair ∈ u.queryPairs, lowerString pair.1 = name) ∧
      (∀ name, r.searchParams.get? name =
        ((u.queryPairs.filter fun pair ↦ lowerString pair.1 = name).getLast?).map Prod.snd) ∧
      ∀ s' u' r', Url.ofString s' = .ok u' → parse s' = .ok r' →
        SearchParams.Reordered u.queryPairs u'.queryPairs → r.searchParams = r'.searchParams := by
  obtain ⟨u, hu, -⟩ := bind_eq_ok_iff.mp h
  have hr := searchParams_of_ofString hu h
  refine ⟨u, hu, fun _ ↦ Url.formReads_query_iff, fun name ↦ ?_, fun name ↦ ?_, ?_⟩
  · rw [hr, SearchParams.isSome_get?_ofPairs_iff]
  · rw [hr, SearchParams.get?_ofPairs]
    rfl
  · intro s' u' r' hu' hr' hpairs
    rw [hr, searchParams_of_ofString hu' hr', hpairs.ofPairs_eq]

/-- A URL with a given query, and with nothing else but a host. -/
private def urlOnHost (query : String) : Url :=
  ⟨"http".toList, some (.ofHost (.name ['h'])), false, .segments [[]], some query.toList, none⟩

/-- An empty piece, a name without a value, and names that meet when they are decoded and put into
lower case; two neighbours that do not meet change places. -/
theorem searchParams_of_parse_meeting :
    ∃ r r', parse "http://h/?%C3%84=1&&B&ä=+2" = .ok r ∧ parse "http://h/?B&Ä=1&ä=%202" = .ok r' ∧
      r.searchParams.get? "ä" = some " 2" ∧ r.searchParams.get? "b" = some "" ∧
      (r.searchParams.get? "B").isSome = false ∧ r.searchParams = r'.searchParams := by
  have hu : Url.ofString "http://h/?%C3%84=1&&B&ä=+2" =
      .ok (urlOnHost "%C3%84=1&&B&%C3%A4=+2") := rfl
  have hu' : Url.ofString "http://h/?B&Ä=1&ä=%202" =
      .ok (urlOnHost "B&%C3%84=1&%C3%A4=%202") := rfl
  have hpairs : (urlOnHost "%C3%84=1&&B&%C3%A4=+2").queryPairs =
      [("Ä", "1"), ("B", ""), ("ä", " 2")] := by decide +kernel
  have hpairs' : (urlOnHost "B&%C3%84=1&%C3%A4=%202").queryPairs =
      [("B", ""), ("Ä", "1"), ("ä", " 2")] := by decide +kernel
  obtain ⟨u, hsame, -, hhas, hvalue, hreordered⟩ := searchParams_of_parse (parse_of_ofString hu)
  obtain rfl := Except.ok.inj (hu.symm.trans hsame)
  refine ⟨_, _, parse_of_ofString hu, parse_of_ofString hu', ?_, ?_, ?_,
    hreordered _ _ _ hu' (parse_of_ofString hu') ?_⟩
  · rw [hvalue, hpairs]
    decide +kernel
  · rw [hvalue, hpairs]
    decide +kernel
  · rw [Bool.eq_false_iff, Ne, hhas, hpairs]
    decide +kernel
  · rw [hpairs, hpairs']
    exact .swap _ (by decide +kernel)

end Record

end UrlCalculus
