import PooledArena.Text.Hex
import PooledArena.Text.Invisible

/-!
# `PooledArena.Text.Quoted`: a text in quotes, with nothing hidden

A quoted text stands between double quotes. The quote and the backslash have a
backslash before them; tab, line feed, carriage return and the zero character
have escapes of their own; every other character that does not show is written
by its number. Single quotes stay as they are.
-/

set_option autoImplicit false

namespace PooledArena.Text

/-- How a character is written between quotes. -/
def escapeChar (c : Char) : String :=
  match c with
  | '"' => "\\\""
  | '\\' => "\\\\"
  | '\t' => "\\t"
  | '\n' => "\\n"
  | '\r' => "\\r"
  | '\x00' => "\\0"
  | c =>
    if isInvisible c then
      "\\u\x7b" ++ String.ofList (Nat.toDigits 16 c.toNat) ++ "\x7d"
    else
      c.toString

/-- The text between quotes. -/
def quoted (text : String) : String :=
  "\"" ++ String.join (text.toList.map escapeChar) ++ "\""

end PooledArena.Text
