import UrlCalculus.Json.Number

/-!
# JSON values

Objects are lists of entries in order. A reader never produces two entries with one key;
`Value.distinctKeys` says so of a whole value, and look-up takes the first entry with a key.

Equality ignores the order of the entries of an object and nothing else. It is not Lean's equality:
`0.0` and `-0.0` are the same number, and `1` and `1.0` are not.
-/

namespace UrlCalculus

inductive Value where
  | null
  | bool (value : Bool)
  | number (value : Number)
  | string (value : String)
  | array (items : List Value)
  | object (entries : List (String × Value))

/-- The entries of an object, in order. -/
abbrev Entries := List (String × Value)

/-- The value of the first entry with the given key. -/
def Entries.get? (entries : Entries) (key : String) : Option Value :=
  (entries.find? fun entry ↦ entry.1 == key).map Prod.snd

namespace Value

instance : Inhabited Value := ⟨.null⟩

/-! ## Equality -/

mutual

/-- Equality up to the order of the entries of objects. -/
def same : Value → Value → Bool
  | .null, .null => true
  | .bool a, .bool b => a == b
  | .number a, .number b => a.same b
  | .string a, .string b => a == b
  | .array xs, .array ys => sameItems xs ys
  | .object xs, .object ys => xs.length == ys.length && sameEntries xs ys
  | _, _ => false

/-- Equality item by item. -/
def sameItems : List Value → List Value → Bool
  | [], [] => true
  | x :: xs, y :: ys => same x y && sameItems xs ys
  | _, _ => false

/-- Whether every entry of the first list has an equal one in the second. -/
def sameEntries : List (String × Value) → List (String × Value) → Bool
  | [], _ => true
  | (key, x) :: xs, ys =>
    (match Entries.get? ys key with
      | some y => same x y
      | none => false) && sameEntries xs ys

end

/-! ## Views -/

def asString? : Value → Option String
  | .string s => some s
  | _ => none

def asArray? : Value → Option (List Value)
  | .array items => some items
  | _ => none

def asObject? : Value → Option Entries
  | .object entries => some entries
  | _ => none

def isNull : Value → Bool
  | .null => true
  | _ => false

mutual

/-- No object within has two entries with one key. -/
def distinctKeys : Value → Bool
  | .array items => distinctKeysItems items
  | .object entries => distinctKeysEntries entries
  | _ => true

def distinctKeysItems : List Value → Bool
  | [] => true
  | x :: xs => distinctKeys x && distinctKeysItems xs

def distinctKeysEntries : List (String × Value) → Bool
  | [] => true
  | (key, x) :: xs =>
    !(xs.any fun entry ↦ entry.1 == key) && distinctKeys x && distinctKeysEntries xs

end

end Value

/-! ## Kinds -/

/-- What can stand in an argument place: a value of some sort, or nothing. -/
inductive Kind where
  | undefined
  | null
  | boolean
  | number
  | string
  | array
  | object
deriving DecidableEq

namespace Kind

def name : Kind → String
  | .undefined => "undefined"
  | .null => "null"
  | .boolean => "boolean"
  | .number => "number"
  | .string => "string"
  | .array => "array"
  | .object => "object"

/-- The kind of a value that may be absent. -/
def of : Option Value → Kind
  | none => .undefined
  | some .null => .null
  | some (.bool _) => .boolean
  | some (.number _) => .number
  | some (.string _) => .string
  | some (.array _) => .array
  | some (.object _) => .object

end Kind

/-! ## Building objects -/

namespace Entries

/-- Set the value under a key: in place when the key is present, else at the end. -/
def insert (key : String) (value : Value) : Entries → Entries
  | [] => [(key, value)]
  | (k, v) :: rest => if k == key then (k, value) :: rest else (k, v) :: insert key value rest

@[simp]
theorem get?_nil (key : String) : get? [] key = none := rfl

theorem get?_cons (key k : String) (v : Value) (rest : Entries) :
    get? ((k, v) :: rest) key = if k = key then some v else get? rest key := by
  by_cases h : k = key <;> simp [get?, h]

/-- Looking up what was set, and everything else. -/
theorem get?_insert (key name : String) (value : Value) (entries : Entries) :
    get? (insert key value entries) name =
      if key = name then some value else get? entries name := by
  induction entries with
  | nil => simp [insert, get?_cons]
  | cons entry rest ih =>
    obtain ⟨k, v⟩ := entry
    by_cases h : k = key
    · subst h
      by_cases hn : k = name <;> simp [insert, get?_cons, hn]
    · by_cases hn : k = name
      · subst hn
        simp [insert, get?_cons, h, Ne.symm h]
      · simp [insert, get?_cons, h, hn, ih]

/-- The object written by a sequence of pairs, a later pair replacing an earlier one. -/
def ofPairs (pairs : List (String × Value)) : Entries :=
  pairs.foldl (fun entries pair ↦ insert pair.1 pair.2 entries) []

end Entries

end UrlCalculus
