import ServiceRegistry.Dict
import ServiceRegistry.ModuleId
import ServiceRegistry.Json.Basic

/-!
# From JSON to typed values

Decoders for the parts that the registry's documents are made of. A record may be written as an
object, where unknown keys are ignored and no known key may stand twice, or as an array of its
fields in their order (`Json.fields?`). Numbers must be written as plain digits and fit 64 bits.
-/

namespace ServiceRegistry.Json

/-- A decoder of a type: nothing for a value that is none of the type's documents. -/
abbrev Decoder (α : Type) := Json → Option α

/-- A truth value. -/
def asBool : Decoder Bool
  | .bool b => some b
  | _ => none

/-- A string. -/
def asString : Decoder String
  | .string s => some s
  | _ => none

/-- A number of at most 64 bits, written in digits only. -/
def asWord : Decoder UInt64
  | .number (.whole false n) => if n < UInt64.size then some (UInt64.ofNat n) else none
  | _ => none

/-- A module's number. -/
def asModuleId : Decoder ModuleId := fun j => (asWord j).map (⟨·⟩)

/-- Anything of a type, or `null` for nothing. -/
def orNull {α : Type} (decode : Decoder α) : Decoder (Option α)
  | .null => some none
  | j => (decode j).map some

/-- An array of values of one type. -/
def asList {α : Type} (decode : Decoder α) : Decoder (List α)
  | .array items => items.mapM decode
  | _ => none

/-- An array of strings as a set. -/
def asSet : Decoder (SortedSet String) := fun j => (asList asString j).map SortedSet.ofList

/-- An object as a dictionary; the last member of a key counts. -/
def asDict {α : Type} (decode : Decoder α) : Decoder (Dict String α)
  | .object members =>
    (members.mapM fun (m : String × Json) => (decode m.2).map fun v => (m.1, v)).map Dict.ofList
  | _ => none

/-- One of finitely many names, written as a string or as the only key of an object that holds
`null`. -/
def asName {α : Type} (ofText? : String → Option α) : Decoder α
  | .string s => ofText? s
  | .object [(key, .null)] => ofText? key
  | _ => none

/-- The fields of a record in the order of `names`, each if it is there. An array has to hold at
least the first `required` fields. -/
def fields? (names : List String) (required : Nat) : Json → Option (List (Option Json))
  | .object members =>
    if names.all fun name => (membersOf name members).length ≤ 1 then
      some (names.map fun name => (membersOf name members).head?)
    else none
  | .array items =>
    if required ≤ items.length ∧ items.length ≤ names.length then
      some (items.map some ++ List.replicate (names.length - items.length) none)
    else none
  | _ => none

/-- A field that has to be there. -/
def needed {α : Type} (decode : Decoder α) : Option Json → Option α
  | some j => decode j
  | none => none

/-- A field with a value for the case that it is not there. -/
def defaulted {α : Type} (default : α) (decode : Decoder α) : Option Json → Option α
  | some j => decode j
  | none => some default

end ServiceRegistry.Json
