import ServiceRegistry.Json.Basic
import ServiceRegistry.Json.Range
import ServiceRegistry.Text.Decimal

/-!
# JSON documents of any shape

Where any document will do, its numbers still have to be in the range of double precision and its
nesting has to stay below a limit (`Json.value?`). Such a value is brought to a normal form: each
key of an object once, with its last value, and whole numbers beyond 64 bits as floating numbers.
-/

namespace ServiceRegistry.Json

/-- A whole number as a floating one, if it is in range. -/
def Number.floating? (negative : Bool) (n : Nat) : Option Number :=
  -- more than 1025 bits are out of range however they are rounded
  if n.log2 ≤ 1024 && inRange (Decimal.print n) [] 0 then
    some (.decimal negative (Decimal.print n) [] 0)
  else none

/-- A number in the form in which it is kept: 64-bit whole numbers, and floating ones. -/
def Number.normal? : Number → Option Number
  | .whole false n =>
    if n < UInt64.size then some (.whole false n) else floating? false n
  | .whole true n =>
    if 0 < n ∧ 2 * n ≤ UInt64.size then some (.whole true n) else floating? true n
  | .decimal negative digits fraction exponent =>
    if inRange digits fraction exponent then some (.decimal negative digits fraction exponent)
    else none

/-- The members of an object with each key once, at its last value. -/
def lastOfKeys : List (String × Json) → List (String × Json)
  | [] => []
  | (key, value) :: rest =>
    if rest.any (·.1 == key) then lastOfKeys rest else (key, value) :: lastOfKeys rest

mutual

/-- The normal form of a value whose arrays and objects nest less than `depth` deep. -/
def normal? (depth : Nat) : Json → Option Json
  | .null => some .null
  | .bool b => some (.bool b)
  | .number n => n.normal?.map .number
  | .string s => some (.string s)
  | .malformed => none
  | .array items => if depth ≤ 1 then none else (normalItems? (depth - 1) items).map .array
  | .object members =>
    if depth ≤ 1 then none
    else (normalMembers? (depth - 1) members).map fun ms => .object (lastOfKeys ms)

/-- The normal forms of items. -/
def normalItems? (depth : Nat) : List Json → Option (List Json)
  | [] => some []
  | item :: rest =>
    match normal? depth item, normalItems? depth rest with
    | some item, some rest => some (item :: rest)
    | _, _ => none

/-- The normal forms of members. -/
def normalMembers? (depth : Nat) : List (String × Json) → Option (List (String × Json))
  | [] => some []
  | (key, value) :: rest =>
    match normal? depth value, normalMembers? depth rest with
    | some value, some rest => some ((key, value) :: rest)
    | _, _ => none

end

/-- How deep arrays and objects may nest, plus one. -/
def depthLimit : Nat := 128

/-- The normal form of a document, if its numbers are in range and it does not nest too deep. -/
def value? (j : Json) : Option Json := normal? depthLimit j

end ServiceRegistry.Json
