import ServiceRegistry.TypeSpace

/-!
# Contracts

A contract is the type of service that a caller expects. With an origin it asks for more than the
name: the module behind a provider has to see the type of that name from the same origin.
-/

namespace ServiceRegistry

/-- The type of service that a caller expects. -/
structure Contract where
  name : String
  /-- The module that defines the type, if that matters. -/
  origin : Option ModuleId := none
deriving DecidableEq

namespace Contract

/-- The contract for a type that the caller has loaded. -/
def ofType (t : LoadedType) : Contract := ⟨t.name, some t.origin⟩

/-- The text for people. -/
def text (c : Contract) : String :=
  match c.origin with
  | some origin => c.name ++ "@" ++ origin.text
  | none => c.name

/-- Whether the type that a module loads under the contract's name is the one that is expected. -/
def isMetBy (c : Contract) (loaded : Except TypeFault LoadedType) : Bool :=
  match c.origin, loaded with
  | none, _ => true
  | some origin, .ok t => t.origin = origin
  | some _, .error _ => false

end Contract

end ServiceRegistry
