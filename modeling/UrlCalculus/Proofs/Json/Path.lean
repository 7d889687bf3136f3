import UrlCalculus.Json.Path
import UrlCalculus.Proofs.Text.Cutting

/-!
# Paths behind paths

Written one behind the other with a dot between them, two paths lead where the second one leads from
the place that the first one leads to. The paths may have empty segments and dots at their ends. Only
the empty path is left out: it has no segment where it stands alone, and one behind a dot.
-/

namespace UrlCalculus

namespace Value

theorem resolve?_of_ne {path : String} (h : path ≠ "") (value : Value) :
    value.resolve? path =
      value.descend? ((Text.pieces (· == '.') path.toList).map String.ofList) :=
  if_neg h

theorem resolve?_dot {front back : String} (hfront : front ≠ "") (hback : back ≠ "")
    (value : Value) :
    value.resolve? (front ++ "." ++ back) = (value.resolve? front).bind (·.resolve? back) := by
  have hpath : (front ++ "." ++ back).toList = front.toList ++ '.' :: back.toList := by simp
  have hne : front ++ "." ++ back ≠ "" := by
    rw [Ne, ← String.toList_eq_nil_iff, hpath]
    simp
  rw [resolve?_of_ne hne, hpath, Text.pieces_append_separator rfl, List.map_append,
    descend?_append, ← resolve?_of_ne hfront]
  exact Option.bind_congr fun inner _ ↦ (resolve?_of_ne hback inner).symm

/-- A path leads nowhere in a value that is no array and no object. -/
theorem descend?_pieces_of_child? {value : Value} (h : ∀ segment, value.child? segment = none)
    (t : Text) : value.descend? ((Text.pieces (· == '.') t).map String.ofList) = none := by
  cases hpieces : Text.pieces (· == '.') t with
  | nil => exact absurd hpieces (Text.pieces_ne_nil _ t)
  | cons piece pieces => rw [List.map_cons, descend?, h, Option.bind_eq_bind, Option.bind_none]

theorem resolve?_null {path : String} (h : path ≠ "") : null.resolve? path = none :=
  (resolve?_of_ne h null).trans (descend?_pieces_of_child? (fun _ ↦ rfl) _)

/-- A place that is not there counts as null, whether the path breaks off early or late. -/
theorem getD_resolve?_dot {front back : String} (hfront : front ≠ "") (hback : back ≠ "")
    (value : Value) :
    (value.resolve? (front ++ "." ++ back)).getD .null =
      (((value.resolve? front).getD .null).resolve? back).getD .null := by
  rw [resolve?_dot hfront hback]
  cases value.resolve? front with
  | some inner => rfl
  | none =>
    change Value.null = (null.resolve? back).getD null
    rw [resolve?_null hback, Option.getD_none]

end Value

end UrlCalculus
