import ServiceRegistry.Host
import ServiceRegistry.Report
import ServiceRegistry.Session.Action
import ServiceRegistry.Stock

/-!
# Answers to actions

Every action has one answer. Errors are answers too; they do not end a session.
-/

namespace ServiceRegistry

/-- A contribution as it is shown: its providers, each with whether it has been resolved. -/
structure GroupView where
  module : ModuleId
  providers : List (Provider × Bool)
  /-- The folder that was scanned, if the contribution comes from a scan. -/
  folder : Option String := none

/-- What an action answers. -/
inductive Answer where
  | done
  | failed (e : Error)
  | fault (f : Fault)
  | typeFault (f : TypeFault)
  /-- A document that cannot be read. -/
  | unreadable
  /-- A name that stands for nothing. -/
  | unknownName
  | module (m : Module)
  | counts (listed opened loaded : Nat)
  | locations (ls : List Location)
  | bytes (content : Bytes)
  | type (t : LoadedType)
  | typeOrNone (t : Option LoadedType)
  | types (ts : List LoadedType)
  | typeSpace (space : TypeSpace)
  | path (p : Path)
  | id (id : ModuleId)
  | state (s : Option ModuleState)
  | text (t : Option String)
  | hosted (modules : List Hosted)
  | listener (id : ListenerId)
  | flag (b : Bool)
  | number (n : Nat)
  | events (es : List Event)
  | busCounts (listeners events : Nat)
  | reception (r : Bus.Reception) (closed : Bool)
  | chain (sources : List PinSource) (pins : List (Option String))
  | fixedPins (size : Nat) (pins : List (Option String))
  | resolution (r : Resolution) (resolved : Bool)
  | provider (p : Provider) (memo : Memo)
  | equality (same : Bool)
  | group (view : GroupView)
  | nothing
  | catalog (k : Catalog)
  | pin (source : String) (pin : Option String)
  | contract (c : Contract)
  | services (ss : Option (List String))
  | follower (f : Follower) (providers : Nat)
  | report (r : Report)

namespace Answer

/-- The answer of an operation that can fail. -/
def ofExcept {α : Type} (ok : α → Answer) : Except Error α → Answer
  | .ok a => ok a
  | .error e => failed e

/-- The answer of an operation that a host can refuse. -/
def ofHost {α : Type} (ok : α → Answer) : Except HostError α → Answer
  | .ok a => ok a
  | .error refusal => failed refusal.toError

end Answer

end ServiceRegistry
