import ServiceRegistry.Dict
import ServiceRegistry.ModuleId
import ServiceRegistry.Json.Basic

/-!
# From collections to JSON

Dictionaries become objects and sets become arrays, both in ascending order.
-/

namespace ServiceRegistry

/-- A dictionary of strings as a JSON object. -/
def Dict.toJson (d : Dict String String) : Json :=
  .object (d.entries.map fun e => (e.1, .string e.2))

/-- A set of strings as a JSON array. -/
def SortedSet.toJson (s : SortedSet String) : Json := .array (s.keys.map .string)

/-- A module's number as a JSON number. -/
def ModuleId.toJson (id : ModuleId) : Json := .nat id.word.toNat

end ServiceRegistry
