/-!
# JSON documents

`Json` is what a JSON text says: members keep their order and may repeat a key, since it is up to
the reader of a document to refuse or accept that. A string may spell half of a character in the
escapes of JSON; such a text is well formed and still says nothing, and is read as `malformed`.
-/

namespace ServiceRegistry

/-- A number as JSON writes it. -/
inductive Json.Number where
  /-- Digits only, after an optional minus sign. -/
  | whole (negative : Bool) (magnitude : Nat)
  /-- Digits with the digits after a point, an exponent of ten, or both. -/
  | decimal (negative : Bool) (whole fraction : List Char) (exponent : Int)
deriving DecidableEq, Inhabited

/-- What a JSON text says. -/
inductive Json where
  | null
  | bool (value : Bool)
  | number (value : Json.Number)
  | string (value : String)
  | array (items : List Json)
  | object (members : List (String × Json))
  /-- A string, or an object with a key, that spells half of a character. -/
  | malformed
deriving Inhabited

namespace Json

/-- A whole number that is not negative. -/
def nat (n : Nat) : Json := .number (.whole false n)

/-- The values of the members of a key, in order. -/
def membersOf (key : String) (members : List (String × Json)) : List Json :=
  (members.filter (·.1 == key)).map (·.2)

/-- The first member of a key in an object. -/
def member? (key : String) : Json → Option Json
  | object members => (membersOf key members).head?
  | _ => none

end Json

end ServiceRegistry
