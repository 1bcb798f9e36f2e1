/-!
# Life cycle of modules

A host reports each module in one `ModuleState` and announces changes as events of an `EventKind`.
A module's types can be used in the resolved states only (`ModuleState.isResolved`): a `resolved`
event begins that period and an `unresolved` or `uninstalled` one ends it (`EventKind.isArrival`,
`EventKind.isDeparture`).
-/

namespace ServiceRegistry

/-- The states in which a host reports a module. -/
inductive ModuleState where
  | installed
  | resolved
  | starting
  | active
  | stopping
  | uninstalled
deriving DecidableEq

namespace ModuleState

/-- All states, in the order of a module's life. -/
def all : List ModuleState := [installed, resolved, starting, active, stopping, uninstalled]

/-- The written name of a state. -/
def text : ModuleState → String
  | installed => "installed"
  | resolved => "resolved"
  | starting => "starting"
  | active => "active"
  | stopping => "stopping"
  | uninstalled => "uninstalled"

/-- The state of a written name. -/
def ofText? (name : String) : Option ModuleState := all.find? (·.text == name)

/-- Whether a module in this state can load types. -/
def isResolved : ModuleState → Bool
  | resolved | starting | active | stopping => true
  | _ => false

/-- The states of the modules that a follower takes up when it starts, unless told otherwise. -/
def startupDefaults : List ModuleState := [resolved, starting, active, stopping]

/-- A state is read back from its text. -/
theorem ofText?_text (s : ModuleState) : ofText? s.text = some s := by cases s <;> decide

/-- By default a follower starts with exactly the modules that can load types. -/
theorem mem_startupDefaults_iff (s : ModuleState) : s ∈ startupDefaults ↔ s.isResolved = true := by
  cases s <;> decide

end ModuleState

/-- The changes that a host announces. -/
inductive EventKind where
  | installed
  | resolved
  | started
  | stopped
  | updated
  | unresolved
  | uninstalled
deriving DecidableEq

namespace EventKind

/-- All kinds of events. -/
def all : List EventKind :=
  [installed, resolved, started, stopped, updated, unresolved, uninstalled]

/-- The written name of a kind. -/
def text : EventKind → String
  | installed => "installed"
  | resolved => "resolved"
  | started => "started"
  | stopped => "stopped"
  | updated => "updated"
  | unresolved => "unresolved"
  | uninstalled => "uninstalled"

/-- The kind of a written name. -/
def ofText? (name : String) : Option EventKind := all.find? (·.text == name)

/-- Whether the module's types can be used from now on. -/
def isArrival : EventKind → Bool
  | resolved => true
  | _ => false

/-- Whether the module's types can no longer be used. -/
def isDeparture : EventKind → Bool
  | unresolved | uninstalled => true
  | _ => false

/-- No event is of an arrival and of a departure. -/
theorem isArrival_of_isDeparture {k : EventKind} (h : k.isDeparture = true) :
    k.isArrival = false := by cases k <;> simp_all [isArrival, isDeparture]

/-- A kind of event is read back from its text. -/
theorem ofText?_text (k : EventKind) : ofText? k.text = some k := by cases k <;> decide

end EventKind

end ServiceRegistry
