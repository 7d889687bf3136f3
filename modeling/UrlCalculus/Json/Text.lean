import UrlCalculus.Json.Value

/-!
# JSON text

`Value.text` writes a value without blanks, entries in order. Strings are quoted with the escapes
that JSON requires and no others.
-/

namespace UrlCalculus

namespace Json

/-- The text of one character inside quotes. -/
def quotedChar (c : Char) : List Char :=
  match c with
  | '"' => ['\\', '"']
  | '\\' => ['\\', '\\']
  | '\n' => ['\\', 'n']
  | '\r' => ['\\', 'r']
  | '\t' => ['\\', 't']
  | c =>
    if c.toNat < 32 then
      ['\\', 'u', '0', '0', Nat.digitChar (c.toNat / 16), Nat.digitChar (c.toNat % 16)]
    else
      [c]

def quoted (s : String) : String :=
  "\"" ++ String.ofList (s.toList.flatMap quotedChar) ++ "\""

end Json

namespace Value

mutual

def text : Value → String
  | .null => "null"
  | .bool b => if b then "true" else "false"
  | .number n => n.text
  | .string s => Json.quoted s
  | .array items => "[" ++ textItems items ++ "]"
  | .object entries => "\x7b" ++ textEntries entries ++ "\x7d"

def textItems : List Value → String
  | [] => ""
  | [x] => text x
  | x :: xs => text x ++ "," ++ textItems xs

def textEntries : List (String × Value) → String
  | [] => ""
  | [(key, x)] => Json.quoted key ++ ":" ++ text x
  | (key, x) :: xs => Json.quoted key ++ ":" ++ text x ++ "," ++ textEntries xs

end

end Value

end UrlCalculus
