import ServiceRegistry.Bus
import ServiceRegistry.Error

/-!
# Hosts

A host lists modules in the order of their installation, each in a state, and has a bus for the
changes. This module holds the single changes of state; an operation such as an update, which makes
several and announces each, is put together in the module on lifecycle operations.

Only three of the states occur in a host's list: a module is installed, resolved or active.
-/

namespace ServiceRegistry

/-- A module in a host's list. -/
structure Hosted where
  module : Module
  state : ModuleState
deriving DecidableEq

/-- Why a host refuses a request. -/
inductive HostError where
  /-- A module of that number is installed already. -/
  | alreadyInstalled (id : ModuleId)
  /-- No module of that number is installed. -/
  | unknown (id : ModuleId)
  /-- The request does not apply in the module's state. -/
  | wrongState (request : String) (id : ModuleId) (state : ModuleState)
deriving DecidableEq

/-- The error that callers see. -/
def HostError.toError : HostError → Error
  | alreadyInstalled id => .invalidInput ("module " ++ id.text ++ " is already installed")
  | unknown id => .moduleNotFound id
  | wrongState request id state =>
    .invalidInput ("cannot " ++ request ++ " module " ++ id.text ++ " in state " ++ state.text)

/-- Modules in the order of their installation, and a bus. -/
structure Host where
  modules : List Hosted := []
  bus : Bus := {}
  /-- The number for the next module that asks for one. -/
  nextId : ModuleId := ⟨1⟩

namespace Host

instance : Inhabited Host := ⟨{}⟩

/-- The entry of a module in the list. -/
def hosted? (h : Host) (id : ModuleId) : Option Hosted := h.modules.find? (·.module.id = id)

/-- The state of a module. -/
def state? (h : Host) (id : ModuleId) : Option ModuleState := (h.hosted? id).map (·.state)

/-- The module object that the host holds for a number. -/
def module? (h : Host) (id : ModuleId) : Option Module := (h.hosted? id).map (·.module)

/-- Gives out a number that no installed module and no earlier answer has. -/
def takeId (h : Host) : ModuleId × Host := (h.nextId, { h with nextId := h.nextId.next })

/-- Appends a module to the list. -/
def install (h : Host) (m : Module) : Except HostError Host :=
  if (h.hosted? m.id).isSome then .error (.alreadyInstalled m.id)
  else .ok { h with
    modules := h.modules ++ [⟨m, .installed⟩]
    nextId := .max h.nextId m.id.next }

/-- Applies a function to the entry of a module, which is the first of its number. -/
def changeFirst (id : ModuleId) (f : Hosted → Hosted) : List Hosted → List Hosted
  | [] => []
  | e :: rest => if e.module.id = id then f e :: rest else e :: changeFirst id f rest

/-- Changes the entry of a module. -/
def change (h : Host) (id : ModuleId) (f : Hosted → Hosted) : Host :=
  { h with modules := changeFirst id f h.modules }

/-- Changes the state of a module as a rule says, which may leave the state as it is. Answers the
module if its state has changed. -/
def transition (h : Host) (id : ModuleId)
    (rule : ModuleState → Except HostError (Option ModuleState)) :
    Except HostError (Option Module × Host) :=
  match h.hosted? id with
  | none => .error (.unknown id)
  | some e =>
    match rule e.state with
    | .error refusal => .error refusal
    | .ok none => .ok (none, h)
    | .ok (some state) => .ok (some e.module, h.change id fun e => { e with state })

/-- Resolving takes an installed module to resolved. -/
def resolveRule (id : ModuleId) (s : ModuleState) : Except HostError (Option ModuleState) :=
  if s = .installed then .ok (some .resolved)
  else if s.isResolved then .ok none
  else .error (.wrongState "resolve" id s)

/-- Starting takes a resolved module to active. -/
def startRule (id : ModuleId) (s : ModuleState) : Except HostError (Option ModuleState) :=
  match s with
  | .resolved => .ok (some .active)
  | .active => .ok none
  | _ => .error (.wrongState "start" id s)

/-- Stopping takes an active module back to resolved. -/
def stopRule (id : ModuleId) (s : ModuleState) : Except HostError (Option ModuleState) :=
  match s with
  | .active => .ok (some .resolved)
  | .installed | .resolved => .ok none
  | _ => .error (.wrongState "stop" id s)

/-- Unresolving takes a module from any resolved state back to installed. -/
def unresolveRule (s : ModuleState) : Except HostError (Option ModuleState) :=
  if s.isResolved then .ok (some .installed) else .ok none

/-- Puts another module object in the place of the one with its number. -/
def replace (h : Host) (m : Module) : Except HostError Host :=
  if (h.hosted? m.id).isSome then .ok (h.change m.id fun e => { e with module := m })
  else .error (.unknown m.id)

/-- Takes a module off the list. -/
def remove (h : Host) (id : ModuleId) : Except HostError (Module × Host) :=
  match h.hosted? id with
  | none => .error (.unknown id)
  | some e => .ok (e.module, { h with modules := h.modules.eraseP (·.module.id = id) })

end Host

end ServiceRegistry
