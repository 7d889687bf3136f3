import UrlCalculus.Proofs.Expr.Matching
import UrlCalculus.Proofs.Expr.Provenance
import UrlCalculus.Proofs.Json.Equality
import UrlCalculus.Proofs.Record.Rereading
import UrlCalculus.Proofs.SearchParams

/-!
# Records as criteria

The object of a record can be read as criteria, every name of a field as the path to it and the field
as what is expected there. Since there are no arrays in it, whatever its texts are, no field is
mistaken for a call or a quotation, and each asks to be equalled. The names of the fields have no dots
in them, so each leads to the field of that name in any other record.

So a record is met by itself and by nothing else. The search parameters are one field of it, and are
compared as objects, which are equal in any order of their entries; but search parameters are sorted,
and two objects of theirs with the same entries have them in the same order.
-/

namespace UrlCalculus

namespace Value

theorem same_string_iff {s t : String} : (string s).same (string t) = true ↔ s = t := by
  rw [same, beq_iff_eq]

section Arrayless

variable {v : Value}

theorem Arrayless.quoted?_eq_none (h : v.Arrayless) : v.quoted? = none := by
  cases v with
  | array items => exact absurd (.self _) (h items)
  | _ => rfl

theorem Arrayless.isExpression_eq_false (h : v.Arrayless) (engine : Engine) :
    engine.isExpression v = false := by
  cases v with
  | array items => exact absurd (.self _) (h items)
  | _ => rfl

end Arrayless

end Value

/-! ## Plain criteria -/

/-- **Criteria without arrays ask for equality.** No evaluation takes place. -/
theorem Engine.objectMatches_of_arrayless {engine : Engine} {criteria : Entries} {value : Value}
    {context below : Context} (h : ∀ pair ∈ criteria, pair.2.Arrayless) :
    objectMatches criteria value context (engine.evaluatorBelow below) =
      .ok (criteria.all fun pair ↦ (valueAt value pair.1).same pair.2) := by
  induction criteria with
  | nil => rfl
  | cons pair rest ih =>
    obtain ⟨hpair, hrest⟩ := List.forall_mem_cons.mp h
    have hmeets : meets (engine.evaluatorBelow below) context (valueAt value pair.1) pair.2 =
        .ok ((valueAt value pair.1).same pair.2) :=
      meets_of_plain hpair.quoted?_eq_none (hpair.isExpression_eq_false engine)
    rw [objectMatches_cons, objectMatches_singleton, ← valueAt, hmeets, ih hrest, List.all_cons]
    cases (valueAt value pair.1).same pair.2 <;> rfl

namespace Record

variable {r r' : Record} {criteria : Entries}

/-- A text equals the entry of the same name when it is the search parameter of that name. -/
theorem exists_same_iff (p : SearchParams) (name s : String) :
    (∃ v, Entries.get? (p.entries.map fun (name, value) ↦ (name, .string value)) name = some v ∧
      (Value.string s).same v = true) ↔ p.get? name = some s := by
  rw [Entries.get?_map_string, SearchParams.get?]
  cases p.entries.lookup name with
  | none => simp
  | some t =>
    simp only [Option.map_some, Option.some.injEq, exists_eq_left', Value.same_string_iff]
    exact eq_comm

/-- Search parameters are equal when their objects are. -/
theorem same_searchParamsValue_iff :
    r.searchParamsValue.same r'.searchParamsValue = true ↔ r.searchParams = r'.searchParams := by
  rw [searchParamsValue, searchParamsValue, Value.same_object_iff, List.length_map, List.length_map,
    List.forall_mem_map]
  simp only [exists_same_iff, SearchParams.get?_eq_some_iff]
  constructor
  · rintro ⟨hlength, hsubset⟩
    exact SearchParams.eq_of_subset hlength hsubset
  · intro h
    rw [h]
    exact ⟨rfl, fun _ hentry ↦ hentry⟩

attribute [ext] Record

/-- The name of each field leads to that field of the other record. -/
theorem all_same_toValue_iff (hcriteria : r.toValue = .object criteria) :
    (criteria.all fun pair ↦ (Engine.valueAt r'.toValue pair.1).same pair.2) = true ↔ r' = r := by
  obtain rfl := Value.object.inj hcriteria
  rw [List.all_eq_true, Record.ext_iff]
  simp only [List.forall_mem_cons]
  -- ten texts, the search parameters, and one more text
  iterate 10 refine and_congr Value.same_string_iff ?_
  refine and_congr same_searchParamsValue_iff ?_
  rw [and_iff_left (List.forall_mem_nil _)]
  exact Value.same_string_iff

/-- **A record meets the criteria of a record exactly when it is that record**, in the view of any
engine. -/
theorem objectMatches_toValue {engine : Engine} {context below : Context}
    (hcriteria : r.toValue = .object criteria) :
    objectMatches criteria r'.toValue context (engine.evaluatorBelow below) =
      .ok (decide (r' = r)) := by
  have harrayless : ∀ pair ∈ criteria, pair.2.Arrayless := by
    intro pair hpair
    refine r.arrayless_toValue.of_part ?_
    rw [hcriteria]
    exact .entry hpair (.self _)
  rw [Engine.objectMatches_of_arrayless harrayless]
  refine congrArg Except.ok (Bool.eq_iff_iff.mpr ?_)
  rw [all_same_toValue_iff hcriteria, decide_eq_true_iff]

end Record

namespace Engine

/-- **A record used as criteria matches the URLs with that record and no others**, where all
operations are known and there is room for the match one level down. -/
theorem urlMatches_toValue {config : Config} {r r' : Record} {criteria : Entries} {url : String}
    {context : Context} (hcriteria : r.toValue = .object criteria) (hurl : Record.parse url = .ok r')
    (hdepth : context.depth + 1 < config.maxDepth) :
    urlMatches criteria url (standard config).evaluator context = .ok (decide (r' = r)) := by
  have hop : (standard config).operation? objectMatchesName = some objectMatchesOperation :=
    operation?_standard config _
  have hbelow : context.depth + 1 < (standard config).config.maxDepth := by
    rwa [config_standard]
  rw [urlMatches_eq hop hbelow fun _ _ ↦ rfl, hurl, mapError_ok, ok_bind]
  exact Record.objectMatches_toValue hcriteria

/-- A URL that is nothing but a host and a query. -/
private def urlWithQuery (query : String) : Url :=
  ⟨"http".toList, some (.ofHost (.name ['a'])), false, .segments [[]], some query.toList, none⟩

/-- A URL written in another way is matched; one with the same search parameters in another order is
not. -/
theorem urlMatches_toValue_rewritten :
    ∃ r r' criteria, r.toValue = .object criteria ∧
      Record.parse "http://a/?b.c=$not&d" = .ok r ∧ Record.parse "HTTP://A:80?b.c=$not&d" = .ok r ∧
      Record.parse "http://a/?d&b.c=$not" = .ok r' ∧ r'.searchParams = r.searchParams ∧
      (Context.root .null).depth + 1 < ({} : Config).maxDepth ∧
      urlMatches criteria "HTTP://A:80?b.c=$not&d" (standard {}).evaluator (.root .null) =
        .ok true ∧
      urlMatches criteria "http://a/?d&b.c=$not" (standard {}).evaluator (.root .null) =
        .ok false := by
  have hdepth : (Context.root .null).depth + 1 < ({} : Config).maxDepth := by decide
  have hurl : Url.ofString "http://a/?b.c=$not&d" = .ok (urlWithQuery "b.c=$not&d") := rfl
  have hrewritten : Url.ofString "HTTP://A:80?b.c=$not&d" = .ok (urlWithQuery "b.c=$not&d") := rfl
  have hother : Url.ofString "http://a/?d&b.c=$not" = .ok (urlWithQuery "d&b.c=$not") := rfl
  refine ⟨_, _, _, rfl, Record.parse_of_ofString hurl, Record.parse_of_ofString hrewritten,
    Record.parse_of_ofString hother, ?_, hdepth, ?_, ?_⟩
  · decide +kernel
  · rw [urlMatches_toValue rfl (Record.parse_of_ofString hrewritten) hdepth]
    exact congrArg Except.ok (decide_eq_true rfl)
  · rw [urlMatches_toValue rfl (Record.parse_of_ofString hother) hdepth]
    refine congrArg Except.ok (decide_eq_false fun heq ↦ ?_)
    exact absurd (congrArg Record.href heq) (by decide)

end Engine

end UrlCalculus
