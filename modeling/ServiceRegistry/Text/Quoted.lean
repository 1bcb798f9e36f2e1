import ServiceRegistry.Text.Hidden

/-!
# Quoted text

Text in descriptions of values stands in double quotes. The quote, the backslash and the usual
control characters are written with a backslash and a letter, and every other character that cannot
be seen, or that would join the character before it, by its number.
-/

namespace ServiceRegistry.Quoted

/-- A number in hexadecimal digits. -/
def hex (n : Nat) : List Char := Nat.toDigits 16 n

/-- How a character stands between quotes. -/
def escape (c : Char) : List Char :=
  match c with
  | '"' => ['\\', '"']
  | '\\' => ['\\', '\\']
  | '\x00' => ['\\', '0']
  | '\t' => ['\\', 't']
  | '\n' => ['\\', 'n']
  | '\r' => ['\\', 'r']
  | c => if Hidden.isHidden c then ['\\', 'u', '{'] ++ hex c.toNat ++ ['}'] else [c]

/-- A text in quotes. -/
def quote (s : String) : String := String.ofList ('"' :: s.toList.flatMap escape ++ ['"'])

end ServiceRegistry.Quoted
