import ServiceRegistry.Json.Basic
import ServiceRegistry.Text.Decimal

/-!
# Writing JSON

`Json.compact` writes a document without blanks and `Json.pretty` with one item to a line, two
spaces of indentation and no line breaks in empty arrays and objects. Strings keep all characters
as they are but for the quote, the backslash and the control characters below the space.
-/

namespace ServiceRegistry.Json

/-- The digit for a number below sixteen. -/
def hexChar (n : Nat) : Char := "0123456789abcdef".toList.getD n '0'

/-- How a character stands in a string. -/
def escapeChar (c : Char) : List Char :=
  match c with
  | '"' => ['\\', '"']
  | '\\' => ['\\', '\\']
  | '\x08' => ['\\', 'b']
  | '\x0c' => ['\\', 'f']
  | '\n' => ['\\', 'n']
  | '\r' => ['\\', 'r']
  | '\t' => ['\\', 't']
  | c =>
    if c.toNat < 0x20 then ['\\', 'u', '0', '0', hexChar (c.toNat / 16), hexChar (c.toNat % 16)]
    else [c]

/-- A string in quotes. -/
def quote (s : String) : List Char := '"' :: s.toList.flatMap escapeChar ++ ['"']

/-- A number in JSON's writing. -/
def printNumber : Number → List Char
  | .whole negative magnitude => (if negative then ['-'] else []) ++ Decimal.print magnitude
  | .decimal negative whole fraction exponent =>
    (if negative then ['-'] else []) ++ whole ++
      (if fraction.isEmpty then [] else '.' :: fraction) ++ 'e' ::
      ((if exponent < 0 then ['-'] else []) ++ Decimal.print exponent.natAbs)

mutual

/-- The document without blanks. -/
def compact : Json → List Char
  | null => "null".toList
  | bool true => "true".toList
  | bool false => "false".toList
  | number value => printNumber value
  | string value => quote value
  | array items => '[' :: compactItems items ++ [']']
  | object members => '{' :: compactMembers members ++ ['}']
  | malformed => "null".toList

/-- Items with commas between them. -/
def compactItems : List Json → List Char
  | [] => []
  | [item] => compact item
  | item :: rest => compact item ++ ',' :: compactItems rest

/-- Members with commas between them. -/
def compactMembers : List (String × Json) → List Char
  | [] => []
  | [(key, value)] => quote key ++ ':' :: compact value
  | (key, value) :: rest => quote key ++ ':' :: compact value ++ ',' :: compactMembers rest

end

/-- A new line and the indentation of a depth. -/
def newLine (depth : Nat) : List Char := '\n' :: List.replicate (2 * depth) ' '

mutual

/-- The document with one item to a line, at a depth of indentation. -/
def prettyAt (depth : Nat) : Json → List Char
  | array [] => ['[', ']']
  | object [] => ['{', '}']
  | array items => '[' :: prettyItems (depth + 1) items ++ newLine depth ++ [']']
  | object members => '{' :: prettyMembers (depth + 1) members ++ newLine depth ++ ['}']
  | scalar => compact scalar

/-- Items on lines of their own. -/
def prettyItems (depth : Nat) : List Json → List Char
  | [] => []
  | [item] => newLine depth ++ prettyAt depth item
  | item :: rest => newLine depth ++ prettyAt depth item ++ ',' :: prettyItems depth rest

/-- Members on lines of their own. -/
def prettyMembers (depth : Nat) : List (String × Json) → List Char
  | [] => []
  | [(key, value)] => newLine depth ++ quote key ++ [':', ' '] ++ prettyAt depth value
  | (key, value) :: rest =>
    newLine depth ++ quote key ++ [':', ' '] ++ prettyAt depth value ++
      ',' :: prettyMembers depth rest

end

/-- The document with one item to a line. -/
def pretty (j : Json) : List Char := prettyAt 0 j

end ServiceRegistry.Json
