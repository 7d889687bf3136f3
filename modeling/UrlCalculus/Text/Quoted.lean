import UrlCalculus.Text.Digits
import UrlCalculus.Text.Unprintable

/-!
# Quoted text

A text in double quotes, as messages show it. Quotes and backslashes are escaped, the common
controls have escapes by letter, and other characters without an appearance of their own are shown
by number.
-/

namespace UrlCalculus

namespace Text

def quoteChar (c : Char) : Text :=
  match c with
  | '\x00' => ['\\', '0']
  | '\t' => ['\\', 't']
  | '\n' => ['\\', 'n']
  | '\r' => ['\\', 'r']
  | '"' => ['\\', '"']
  | '\\' => ['\\', '\\']
  | c =>
    if inRanges unprintableRanges c then
      ['\\', 'u', '\x7b'] ++ hexadecimal c.toNat ++ ['\x7d']
    else
      [c]

def quote (t : Text) : Text :=
  '"' :: t.flatMap quoteChar ++ ['"']

end Text

end UrlCalculus
