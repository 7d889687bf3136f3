import UrlCalculus.Json.Value
import UrlCalculus.Text.Digits

/-!
# Dotted paths

A path names a place inside a value: its segments, separated by dots, are followed one after the
other. In an object a segment is a key, in an array an index; nothing else has places. The empty
path names the value itself, so a path of one empty segment cannot be written.
-/

namespace UrlCalculus

/-- The index a segment denotes: decimal digits after at most one plus sign, below `2⁶⁴`. -/
def segmentIndex? (segment : String) : Option Nat := do
  let n ← Text.number? 10 (Text.dropOne (· == '+') segment.toList)
  if n < 1 <<< 64 then some n else none

namespace Value

/-- The value one segment further in. -/
def child? (segment : String) : Value → Option Value
  | .object entries => Entries.get? entries segment
  | .array items => do
    let i ← segmentIndex? segment
    items[i]?
  | _ => none

/-- Follow segments one after the other. -/
def descend? (value : Value) : List String → Option Value
  | [] => some value
  | segment :: rest => do
    let inner ← value.child? segment
    inner.descend? rest

theorem descend?_append (value : Value) (front back : List String) :
    value.descend? (front ++ back) = (value.descend? front).bind (·.descend? back) := by
  induction front generalizing value with
  | nil => rfl
  | cons segment rest ih =>
    cases h : value.child? segment with
    | none => simp [descend?, h]
    | some inner => simp [descend?, h, ih]

/-- The value a path leads to. -/
def resolve? (value : Value) (path : String) : Option Value :=
  if path = "" then some value
  else value.descend? ((Text.pieces (· == '.') path.toList).map String.ofList)

@[simp]
theorem resolve?_empty (value : Value) : value.resolve? "" = some value := rfl

end Value

end UrlCalculus
