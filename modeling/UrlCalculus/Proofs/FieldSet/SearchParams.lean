import UrlCalculus.Proofs.FieldSet.NormalForm
import UrlCalculus.Proofs.Text.Form
import UrlCalculus.Proofs.Url.Readable
import UrlCalculus.Record

/-!
# Search parameters of an updated URL

Search parameters are put into a URL as a form. Nothing that a form is written with is encoded,
ignored or cut off on the way into the URL and out of its string, and the query of the base and the
search given as a text leave no trace. So where the string that comes out is a URL, the pairs of its
query are the search parameters, in their order.

The string that comes out is not always a URL. A host that is removed leaves a password behind, and
a new path gets no mark; `Url.Readable` tells when none of this happens.
-/

namespace UrlCalculus

/-- The pairs of the query, in order. -/
def Url.queryPairs (u : Url) : List (String × String) :=
  (Text.formDecode (u.query.getD [])).map fun (name, value) ↦
    (String.ofList name, String.ofList value)

/-- The search parameters of a record are the pairs of the query as a map. -/
theorem Record.searchParams_ofUrl (u : Url) :
    (ofUrl u).searchParams = .ofPairs u.queryPairs := rfl

/-! ## Setting the query -/

namespace Url

/-- A text that no step on the way changes is the query as it is written. -/
theorem query_setQuery_of_avoids {u : Url} {t : Text} (hne : t ≠ [])
    (hmark : Text.Avoids (· == '?') t) (hset : Text.Avoids EncodeSet.specialQuery t) :
    (u.setQuery t).query = some t := by
  have hbreaks : Text.Avoids Text.isBreak t := hset.mono fun c hc ↦
    EncodeSet.specialQuery_of_query (EncodeSet.query_of_controls (EncodeSet.controls_of_isBreak hc))
  have hdrop : Text.dropOne (· == '?') t = t := by
    obtain ⟨c, t, rfl⟩ := List.exists_cons_of_ne_nil hne
    rw [Text.dropOne, if_neg (by simpa using (Text.avoids_cons.mp hmark).1)]
  rw [setQuery.eq_def]
  split
  · exact absurd rfl hne
  · rw [hdrop, Text.withoutBreaks_of_avoids hbreaks,
      Text.percentEncode_of_avoids (hset.mono fun c ↦ specialQuery_of_querySet)]

end Url

namespace FieldSet

variable {pairs : List (String × String)}

/-! ## The query of search parameters -/

theorem avoids_encodedParams {p : Char → Bool}
    (hliteral : ∀ n < 128, Text.isFormLiteral (Char.ofNat n) = true → p (Char.ofNat n) = false)
    (hmarks : Text.Avoids p ['+', '%', '=', '&']) (pairs : List (String × String)) :
    Text.Avoids p (encodedParams pairs) :=
  Text.avoids_of_isFormLiteral_or_mem (fun _ ↦ Text.mem_formEncode) hliteral hmarks

theorem avoids_specialQuery_encodedParams (pairs : List (String × String)) :
    Text.Avoids EncodeSet.specialQuery (encodedParams pairs) :=
  avoids_encodedParams (by decide) (by decide) pairs

theorem encodedParams_eq_nil_iff : encodedParams pairs = [] ↔ pairs = [] := by
  rw [encodedParams, Text.formEncode_eq_nil_iff, List.map_eq_nil_iff]

/-- The query that search parameters become. -/
def paramsQuery (pairs : List (String × String)) : Option Text :=
  if pairs = [] then none else some (encodedParams pairs)

theorem getD_paramsQuery (pairs : List (String × String)) :
    (paramsQuery pairs).getD [] = encodedParams pairs := by
  rw [paramsQuery]
  split
  · rename_i h
    exact (encodedParams_eq_nil_iff.mpr h).symm
  · rfl

/-- A form is a query as it is written. -/
theorem query_setQuery_encodedParams (u : Url) (pairs : List (String × String)) :
    (u.setQuery (encodedParams pairs)).query = paramsQuery pairs := by
  by_cases hnil : pairs = []
  · subst hnil
    exact Url.query_stripPath _
  · rw [paramsQuery, if_neg hnil]
    exact Url.query_setQuery_of_avoids (mt encodedParams_eq_nil_iff.mp hnil)
      (avoids_encodedParams (by decide) (by decide) pairs) (avoids_specialQuery_encodedParams pairs)

theorem query_applyHash (f : FieldSet) (u : Url) : (f.applyHash u).query = u.query := by
  rw [applyHash]
  split
  · rfl
  · rfl
  · exact Url.query_setFragment u _

/-- **Search parameters make the query, whatever the base and the other fields are.** -/
theorem query_applyTo {f : FieldSet} (hf : f.searchParams = some pairs) (host : String) (u : Url) :
    (f.applyTo host u).query = paramsQuery pairs := by
  rw [applyTo, query_applyHash, applySearch, hf]
  exact query_setQuery_encodedParams _ pairs

/-! ## Reading the query back -/

theorem map_formDecode_encodedParams (pairs : List (String × String)) :
    (Text.formDecode (encodedParams pairs)).map (fun (name, value) ↦
      (String.ofList name, String.ofList value)) = pairs := by
  rw [encodedParams, Text.formDecode_formEncode, List.map_map]
  refine (List.map_congr_left fun pair _ ↦ ?_).trans (List.map_id pairs)
  simp

theorem queryPairs_of_query {v : Url} (hv : v.query = paramsQuery pairs) :
    v.queryPairs = pairs := by
  rw [Url.queryPairs, hv, getD_paramsQuery, map_formDecode_encodedParams]

/-- An update with search parameters succeeds. Its result is a URL exactly when the URL that was
made is readable, and then the search parameters are the pairs of its query. -/
theorem queryPairs_of_update {f : FieldSet} {base host : String} {u : Url}
    (hhost : f.resolvedHost? = some host) (hbase : Url.ofString base = .ok u)
    (hpairs : f.searchParams = some pairs) :
    ∃ href, f.update base = .ok href ∧
      ((∃ v, Url.ofString href = .ok v) ↔ (f.applyTo host u).Readable) ∧
      ∀ v, Url.ofString href = .ok v →
        v.queryPairs = pairs ∧ (pairs = [] → (Record.ofUrl v).search = "") := by
  have hwf := wellFormed_applyTo f host (Url.wellFormed_of_parse hbase)
  have hquery := query_applyTo hpairs host u
  refine ⟨(f.applyTo host u).href, ?_, ?_, fun v hv ↦ ?_⟩
  · rw [update, hhost]
    simp only [hbase]
  · rw [← hwf.exists_parse_text_iff]
    simp only [Url.ofString, Url.toList_href]
  · rw [Url.ofString, Url.toList_href] at hv
    have hread : v.query = paramsQuery pairs := by
      refine (hwf.query_of_parse_text (fun q hq ↦ ?_) hv).trans hquery
      rw [hquery, paramsQuery] at hq
      split at hq
      · cases hq
      · cases hq
        exact avoids_specialQuery_encodedParams pairs
    refine ⟨queryPairs_of_query hread, ?_⟩
    rintro rfl
    rw [Record.ofUrl, hread]
    rfl

/-- Marks, an empty pair and a repeated name, in the place of another query. -/
def markedFields : FieldSet :=
  empty.withHost "h" |>.withSearch "?y" |>.withHash "f" |>.withSearchParam "&=" "+%#?"
    |>.withSearchParam "" "" |>.withSearchParam "ä b" "" |>.withSearchParam "&=" "c"

theorem queryPairs_of_update_markedFields :
    markedFields.update "foo://a/?x" =
        .ok "foo://h/?%26%3D=%2B%25%23%3F&=&%C3%A4+b=&%26%3D=c#f" ∧
      ∃ v, Url.ofString "foo://h/?%26%3D=%2B%25%23%3F&=&%C3%A4+b=&%26%3D=c#f" = .ok v ∧
        v.queryPairs = [("&=", "+%#?"), ("", ""), ("ä b", ""), ("&=", "c")] := by
  have hbase : Url.ofString "foo://a/?x" = .ok
      ⟨"foo".toList, some (.ofHost (.name ['a'])), false, .segments [[]], some ['x'], none⟩ := by
    decide
  have hupdate : markedFields.update "foo://a/?x" =
      .ok "foo://h/?%26%3D=%2B%25%23%3F&=&%C3%A4+b=&%26%3D=c#f" := by decide
  obtain ⟨href, hhref, -, hpairs⟩ := queryPairs_of_update (f := markedFields) rfl hbase rfl
  obtain rfl := Except.ok.inj (hupdate.symm.trans hhref)
  obtain ⟨v, hv⟩ : ∃ v,
      Url.ofString "foo://h/?%26%3D=%2B%25%23%3F&=&%C3%A4+b=&%26%3D=c#f" = .ok v := ⟨_, rfl⟩
  exact ⟨hupdate, v, hv, (hpairs v hv).1⟩

/-- A password that stays when the host is removed. -/
theorem not_queryPairs_of_update_of_password :
    ¬∀ (f : FieldSet) (base host : String) (u : Url) (pairs : List (String × String)),
      f.resolvedHost? = some host → Url.ofString base = .ok u → f.searchParams = some pairs →
      ∃ href, f.update base = .ok href ∧ ∃ v, Url.ofString href = .ok v ∧
        v.queryPairs = pairs ∧ (pairs = [] → (Record.ofUrl v).search = "") := by
  intro h
  have hbase : Url.ofString "foo://:pw@h/" = .ok
      ⟨"foo".toList, some ⟨[], "pw".toList, .name ['h'], none⟩, false, .segments [[]], none,
        none⟩ := by decide
  have hupdate : (empty.withHost "/" |>.withSearchParam "a" "b").update "foo://:pw@h/" =
      .ok "foo://:pw@/?a=b" := by decide
  have hempty : Url.ofString "foo://:pw@/?a=b" = .error .emptyHost := by decide
  obtain ⟨href, hhref, v, hv, -⟩ := h (empty.withHost "/" |>.withSearchParam "a" "b")
    _ _ _ _ rfl hbase rfl
  obtain rfl := Except.ok.inj (hupdate.symm.trans hhref)
  rw [hempty] at hv
  cases hv

end FieldSet

end UrlCalculus
