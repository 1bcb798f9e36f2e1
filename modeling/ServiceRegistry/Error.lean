import ServiceRegistry.Fault
import ServiceRegistry.TypeSpace

/-!
# Errors of the registry

Every operation of the registry that can fail fails with an `Error`. Its constructors are the
classes that callers tell apart: `isNotFound` are the errors after which a caller may fall back to a
default, `isUserFacing` those of which a user needs the message only.
-/

namespace ServiceRegistry

/-- Why an operation failed. -/
inductive Error where
  /-- Settings could not be found, read or understood. -/
  | settings (detail : String)
  /-- A module could not be opened. -/
  | module (detail : String)
  /-- The host knows no module of that number. -/
  | moduleNotFound (id : ModuleId)
  /-- A type could not be loaded. -/
  | typeLoad (cause : TypeFault)
  /-- Nothing answers the request. -/
  | notFound (detail : String)
  /-- The request makes no sense in the present state. -/
  | invalidInput (detail : String)
  /-- Reading failed. -/
  | io (cause : Fault)
  /-- A document is not well formed. -/
  | json (detail : String)
deriving DecidableEq

namespace Error

/-- The text for people. -/
def message : Error → String
  | settings detail => "Configuration error: " ++ detail
  | module detail => "Module error: " ++ detail
  | moduleNotFound id => "Module not found: " ++ id.text
  | typeLoad cause => "Type load error: " ++ cause.message
  | notFound detail => "Not found: " ++ detail
  | invalidInput detail => "Invalid input: " ++ detail
  | io cause => "IO error: " ++ cause.text
  | json detail => "JSON error: " ++ detail

/-- The text of the error's own cause, for the errors that have one. -/
def cause? : Error → Option String
  | typeLoad cause => some cause.message
  | io cause => some cause.text
  | json detail => some detail
  | _ => none

/-- Whether the error says that something is not there. -/
def isNotFound : Error → Bool
  | notFound _ | moduleNotFound _ | typeLoad (.notVisible ..) => true
  | _ => false

/-- Whether the message alone serves the user. -/
def isUserFacing : Error → Bool
  | notFound _ | moduleNotFound _ | invalidInput _ | settings _ | module _ => true
  | _ => false

end Error

end ServiceRegistry
