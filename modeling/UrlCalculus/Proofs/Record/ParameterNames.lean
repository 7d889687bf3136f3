import UrlCalculus.Proofs.Expr.Conjunction
import UrlCalculus.Proofs.FieldSet.SearchParams
import UrlCalculus.Proofs.Record.Lookup
import UrlCalculus.Proofs.SearchParams

/-!
# Names of search parameters

A name is put into lower case when a query is flattened, and it is its own lower-case form from then
on. So a search parameter is not found under a name as the query has it, unless this is in lower case:
not in the record, and not at a path of criteria, which then ask about null.

Nothing is left to be flattened. The names of the entries neither change nor meet, so the entries
make the same map again, read as pairs in any order or from a query that is written with them.
-/

namespace UrlCalculus

/-- The query that pairs are written as is flattened as the pairs are. -/
theorem SearchParams.ofQuery_encodedParams (pairs : List (String × String)) :
    ofQuery (FieldSet.encodedParams pairs) = ofPairs pairs := by
  rw [ofQuery, FieldSet.map_formDecode_encodedParams]

namespace Record

variable {r : Record} {name : String}

theorem toList_parameterPath (name : String) :
    ("searchParams." ++ name).toList = "searchParams".toList ++ '.' :: name.toList := by
  simp

theorem get?_searchParams (r : Record) (name : String) :
    r.get? ("searchParams." ++ name) = r.searchParams.get? name := by
  rw [get?_of_dot (by decide) (toList_parameterPath name), if_pos String.ofList_toList,
    String.ofList_toList]

/-- Names with dots are paths to the object, and lead nowhere. -/
theorem resolve?_toValue_searchParams (r : Record) (name : String) :
    r.toValue.resolve? ("searchParams." ++ name) =
      if '.' ∈ name.toList then none else (r.searchParams.get? name).map .string := by
  rw [Value.resolve?_of_dot (by decide) (toList_parameterPath name), child?_toValue,
    if_pos String.ofList_toList, Option.bind_some, descend?_searchParamsValue,
    String.ofList_toList]

theorem resolve?_toValue_eq_none (h : r.searchParams.get? name = none) :
    r.toValue.resolve? ("searchParams." ++ name) = none := by
  rw [resolve?_toValue_searchParams, h, Option.map_none, ite_self]

theorem inLowerCase_of_parse {s : String} (h : parse s = .ok r) : r.searchParams.InLowerCase := by
  obtain ⟨u, -, hu⟩ := bind_eq_ok_iff.mp h
  obtain rfl := Except.ok.inj hu
  exact SearchParams.inLowerCase_ofPairs u.queryPairs

/-- **The names of search parameters are in lower case.** In the record of every URL each of them is
its own lower-case form. Under a name that is not, nothing is found in the record and nothing at the
path of criteria, so that these ask about null, whatever they expect. And the entries make the same
search parameters again, in any order, as pairs and as the query that is written with them. -/
theorem lowerString_of_parse {s : String} {r : Record} (h : parse s = .ok r) :
    (∀ entry ∈ r.searchParams.entries, lowerString entry.1 = entry.1) ∧
      (∀ name, lowerString name ≠ name →
        r.get? ("searchParams." ++ name) = none ∧
        r.toValue.resolve? ("searchParams." ++ name) = none ∧
        ∀ expected context evaluator,
          objectMatches [("searchParams." ++ name, expected)] r.toValue context evaluator =
            meets evaluator context .null expected) ∧
      ∀ pairs, pairs.Perm r.searchParams.entries →
        SearchParams.ofPairs pairs = r.searchParams ∧
        SearchParams.ofQuery (FieldSet.encodedParams pairs) = r.searchParams := by
  have hlower := inLowerCase_of_parse h
  refine ⟨hlower, fun name hname ↦ ?_, fun pairs hpairs ↦ ?_⟩
  · have hnone := hlower.get?_eq_none hname
    have hpath := resolve?_toValue_eq_none hnone
    refine ⟨(get?_searchParams r name).trans hnone, hpath, fun expected context evaluator ↦ ?_⟩
    rw [objectMatches_singleton, hpath, Option.getD_none]
  · rw [SearchParams.ofQuery_encodedParams]
    exact ⟨hlower.ofPairs_eq hpairs, hlower.ofPairs_eq hpairs⟩

/-- A sigma at the end of a name, a capital I with a dot, and the entries in another order. -/
theorem lowerString_of_parse_finalSigma :
    let reversed := [("οδος", "1"), ("i\u0307", "2"), ("b", "3")]
    ∃ r, parse "http://h/?ΟΔΟΣ=1&\u0130=2&b=3" = .ok r ∧
      r.searchParams.entries = reversed.reverse ∧
      (∀ entry ∈ r.searchParams.entries, lowerString entry.1 = entry.1) ∧
      lowerString "ΟΔΟΣ" ≠ "ΟΔΟΣ" ∧ r.get? ("searchParams." ++ "ΟΔΟΣ") = none ∧
      r.toValue.resolve? ("searchParams." ++ "ΟΔΟΣ") = none ∧
      SearchParams.ofQuery (FieldSet.encodedParams reversed) = r.searchParams := by
  intro reversed
  obtain ⟨r, hr⟩ : ∃ r, parse "http://h/?ΟΔΟΣ=1&\u0130=2&b=3" = .ok r := ⟨_, rfl⟩
  have hentries : r.searchParams.entries = reversed.reverse := by
    obtain rfl := Except.ok.inj hr
    decide +kernel
  have hne : lowerString "ΟΔΟΣ" ≠ "ΟΔΟΣ" := by decide +kernel
  obtain ⟨hlower, hpath, hagain⟩ := lowerString_of_parse hr
  obtain ⟨hget, hresolve, -⟩ := hpath _ hne
  have hperm : reversed.Perm r.searchParams.entries := by
    rw [hentries]
    exact (List.reverse_perm reversed).symm
  exact ⟨r, hr, hentries, hlower, hne, hget, hresolve, (hagain _ hperm).2⟩

end Record

end UrlCalculus
