import ServiceRegistry.Dict
import ServiceRegistry.ModuleId

/-!
# The types that a module sees

A module loads types by name. What it gets depends on the module that defines the type, so a loaded
type carries its origin, and two types of one name from two origins differ. A `TypeSpace` lists the
names a module defines, imports and refuses; a refusal wins over a definition and a definition over
an import.
-/

namespace ServiceRegistry

/-- A type as loaded through some module: its name and the module that defines it. -/
structure LoadedType where
  name : String
  origin : ModuleId
deriving DecidableEq

/-- Why a module could not load a type. -/
inductive TypeFault where
  /-- The module does not see a type of that name. -/
  | notVisible (name : String) (viewer : ModuleId)
  /-- The module sees the type and refuses to load it. -/
  | rejected (name : String) (viewer : ModuleId) (reason : String)
deriving DecidableEq

namespace TypeFault

/-- The name of the type that was asked for. -/
def typeName : TypeFault → String
  | notVisible name _ => name
  | rejected name _ _ => name

/-- The text for people. -/
def message : TypeFault → String
  | notVisible name viewer => "type '" ++ name ++ "' is not visible from module " ++ viewer.text
  | rejected name viewer reason =>
    "type '" ++ name ++ "' was rejected by module " ++ viewer.text ++ ": " ++ reason

end TypeFault

/-- The types that a module defines, imports and refuses. -/
structure TypeSpace where
  /-- Types of the module's own. -/
  defined : SortedSet String := .empty
  /-- Types of other modules, with the module that defines them. -/
  imports : Dict String ModuleId := .empty
  /-- Types that are visible but refused, with the reason. -/
  rejected : Dict String String := .empty
deriving DecidableEq, Inhabited

/-- Loads a type by name on behalf of a module. -/
def TypeSpace.load (space : TypeSpace) (viewer : ModuleId) (name : String) :
    Except TypeFault LoadedType :=
  match space.rejected.get? name with
  | some reason => .error (.rejected name viewer reason)
  | none =>
    if space.defined.contains name then .ok ⟨name, viewer⟩
    else match space.imports.get? name with
      | some origin => .ok ⟨name, origin⟩
      | none => .error (.notVisible name viewer)

end ServiceRegistry
