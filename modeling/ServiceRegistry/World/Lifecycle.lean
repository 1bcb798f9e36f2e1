import ServiceRegistry.World.Delivery

/-!
# Life-cycle operations of hosts

Each change of a module's state is made in one step and announced after it, so listeners always find
the host in the state that the event speaks of, unless another listener has changed it again.
Starting resolves first if that is needed; updating and uninstalling first make the module's types
unavailable. Between two changes listeners act, and an operation whose next change has become
impossible ends with an error.
-/

namespace ServiceRegistry.World

/-- Makes a change to a host that can be refused. -/
def tryHost {α : Type} (n : Nat) (f : Host → Except HostError (α × Host)) (w : World) :
    Except HostError α × World :=
  match f (w.host n) with
  | .error refusal => (.error refusal, w)
  | .ok (a, h) => (.ok a, w.setHost n h)

/-- Announces a change of a module, if there is one. -/
def announce (n : Nat) (kind : EventKind) : Option Module → Work Unit
  | some m => publish n ⟨kind, m⟩
  | none => pure ()

/-- Changes the state of a module by a rule and announces the change. -/
def changeState (n : Nat) (id : ModuleId)
    (rule : ModuleState → Except HostError (Option ModuleState)) (kind : EventKind) :
    Work (Except HostError Unit) := do
  match ← Interruptible.act (tryHost n (·.transition id rule)) with
  | .error refusal => return .error refusal
  | .ok changed =>
    announce n kind changed
    return .ok ()

/-- Installs a module. -/
def install (n : Nat) (m : Module) : Work (Except HostError ModuleId) := do
  match ← Interruptible.act (tryHost n fun h => (h.install m).map fun h => ((), h)) with
  | .error refusal => return .error refusal
  | .ok () =>
    publish n ⟨.installed, m⟩
    return .ok m.id

/-- Makes a module's types available. -/
def resolve (n : Nat) (id : ModuleId) : Work (Except HostError Unit) :=
  changeState n id (Host.resolveRule id) .resolved

/-- Makes a module's types unavailable. -/
def unresolve (n : Nat) (id : ModuleId) : Work (Except HostError Unit) :=
  changeState n id Host.unresolveRule .unresolved

/-- Stops a module. -/
def stop (n : Nat) (id : ModuleId) : Work (Except HostError Unit) :=
  changeState n id (Host.stopRule id) .stopped

/-- Starts a module, after resolving it if that is needed. -/
def start (n : Nat) (id : ModuleId) : Work (Except HostError Unit) := do
  match ← resolve n id with
  | .error refusal => return .error refusal
  | .ok () => changeState n id (Host.startRule id) .started

/-- Puts another module object in the place of the one with its number, and resolves it if asked. -/
def exchange (n : Nat) (m : Module) (andResolve : Bool) : Work (Except HostError Unit) := do
  match ← Interruptible.act (tryHost n fun h => (h.replace m).map fun h => ((), h)) with
  | .error refusal => return .error refusal
  | .ok () =>
    Interruptible.interrupt (.reported (.replaced n m))
    publish n ⟨.updated, m⟩
    if andResolve then resolve n m.id else return .ok ()

/-- Puts another module object in the place of the one with its number. If the module's types are
available, they are made unavailable before and available again after. -/
def update (n : Nat) (m : Module) : Work (Except HostError Unit) := do
  match ← Interruptible.ask fun w => (w.host n).state? m.id with
  | none => return .error (.unknown m.id)
  | some state =>
    if state.isResolved then
      match ← unresolve n m.id with
      | .error refusal => return .error refusal
      | .ok () => exchange n m true
    else exchange n m false

/-- Takes a module off the host, after making its types unavailable. -/
def uninstall (n : Nat) (id : ModuleId) : Work (Except HostError Unit) := do
  match ← unresolve n id with
  | .error refusal => return .error refusal
  | .ok () =>
    match ← Interruptible.act (tryHost n (·.remove id)) with
    | .error refusal => return .error refusal
    | .ok m =>
      publish n ⟨.uninstalled, m⟩
      return .ok ()

end ServiceRegistry.World
