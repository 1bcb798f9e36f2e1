import ServiceRegistry.Location
import ServiceRegistry.Stream
import ServiceRegistry.TypeSpace

/-!
# Modules

A `Module` is how hosts, providers and followers hold a module: by the object it is, with the number
and the name under which it was made. What it contains can change under way; `ModuleView` is what a
module answers at one moment.
-/

namespace ServiceRegistry

/-- A module object, with its fixed number and display name. -/
structure Module where
  /-- Tells module objects apart, also those that share a number. -/
  object : Nat
  id : ModuleId
  name : String
deriving DecidableEq, Inhabited

/-- What a module answers to its three questions at one moment. -/
structure ModuleView where
  /-- The entries directly in a folder; those of folders end in a slash. -/
  list : List Char → Except Fault (List Location)
  /-- The bytes of an entry. -/
  openEntry : Location → Except Fault Stream
  /-- A type, by its name. -/
  loadType : String → Except TypeFault LoadedType

/-- The fault of an entry that is another module's. -/
def Fault.foreignEntry (owner : ModuleId) (l : Location) : Fault :=
  ⟨.notFound, l.text ++ " does not belong to module " ++ owner.text⟩

/-- The path of an entry that has to be a given module's own. -/
def Location.ownPath (owner : ModuleId) (l : Location) : Except Fault (List Char) :=
  match l.pathIn? owner with
  | some path => .ok path
  | none => .error (.foreignEntry owner l)

end ServiceRegistry
