import ServiceRegistry.Contract
import ServiceRegistry.Contribution
import ServiceRegistry.Lifecycle
import ServiceRegistry.Module.Content
import ServiceRegistry.Pins

/-!
# Actions on named objects

In a session, objects have names and actions refer to them by name; a name is looked up when its
action is performed. Some actions bring a script, a list of actions that are performed later: when
a module is first listed, when a recorder hears of an event, or when a host's list is taken.
-/

namespace ServiceRegistry

/-- A source of pins, as it is described in an action. -/
inductive PinSpec where
  /-- Environment variables. -/
  | environment
  /-- A fixed list; the last pin of a service counts. -/
  | fixed (pins : List (String × String))
  /-- A chain: the sources that settings ask for, between sources put before and after them. -/
  | chain (settings : Option Settings) (after before : List PinSpec)

mutual

/-- The source that is described. Each source put before goes in front of those put there so far. -/
def PinSpec.source : PinSpec → PinSource
  | environment => .environment
  | fixed pins => .fixed (.ofList pins)
  | chain settings after before =>
    .chain ((PinSpec.sources before).reverse ++
      ((settings.map PinSource.listOfSettings).getD []) ++ PinSpec.sources after)

/-- The sources that are described. -/
def PinSpec.sources : List PinSpec → List PinSource
  | [] => []
  | spec :: rest => spec.source :: PinSpec.sources rest

end

/-- What is asked of a module. -/
inductive ModuleRequest where
  /-- How often the module was asked each question. -/
  | counts
  | list (folder : String)
  | openEntry (location : Location)
  | loadType (name : String)

/-- What is done to files and variables. -/
inductive SurroundingsRequest where
  | writeFile (path : Path) (content : Bytes)
  | makeFolder (path : Path)
  | remove (path : Path)
  | setVariable (name : String) (value : Option String)

/-- What is asked of a host. -/
inductive HostRequest where
  /-- A number for a new module. -/
  | takeId
  | install (module : String)
  | update (module : String)
  | resolve (id : ModuleId)
  | start (id : ModuleId)
  | stop (id : ModuleId)
  | unresolve (id : ModuleId)
  | uninstall (id : ModuleId)
  | state (id : ModuleId)
  /-- The display name of a module. -/
  | moduleName (id : ModuleId)
  | modules
  | unsubscribe (listener : String)
  | publish (kind : EventKind) (module : String)
  | history (limit : Option Nat)
  | clearHistory
  /-- The numbers of listeners and of events. -/
  | busCounts
  | makeReceiver (name : String)

/-- What is asked of providers and contributions. -/
inductive ProviderRequest where
  /-- Makes a provider; without a location, that of the usual descriptor in the module. -/
  | make (name module service : String) (location : Option Location) (cacheFailures : Bool)
  | resolve (name : String)
  | describe (name : String)
  | compare (first second : String)
  | scan (name module : String) (rule : ScanRule)
  /-- A contribution made by hand. -/
  | group (name : String) (id : ModuleId) (providers : List String)
  | describeGroup (name : String)
  /-- Gives a name to a provider of a contribution. -/
  | takeFromGroup (group : String) (index : Nat) (name : String)

/-- What is asked of a catalog. -/
inductive CatalogRequest where
  | register (service provider : String)
  | unregister (service provider : String)
  | registerGroup (group : String)
  | unregisterGroup (group : String)
  | locate (service : String) (contract : Option Contract)
  | locateAll (service : String) (contract : Option Contract)
  | describe
  | candidates (service : String)
  | contains (service : String)
  /-- The pin of a service. -/
  | pin (service : String)

/-- What is asked of a follower. -/
inductive FollowerRequest where
  | start (host : String)
  | stop
  /-- Lets go of the follower. -/
  | drop
  | arrived (module : String)
  | departed (id : ModuleId)
  | contributions (id : ModuleId)
  | describe

/-- What a report is about. -/
inductive ReportRequest where
  | modules (host follower : String)
  | located (catalog service : String)
  | locatedAll (catalog service : String)
  | services (catalog : String)

/-- Something to do in a session. -/
inductive Action where
  /-- Makes a module; the script, if there is one, is performed when it is first listed. -/
  | makeModule (name : String) (recipe : Recipe) (script : Option (List Action))
  /-- Changes the content of a module. -/
  | swap (name : String) (recipe : Recipe)
  | module (name : String) (request : ModuleRequest)
  /-- The types of a module in memory, without making a module. -/
  | typesOf (id : ModuleId) (steps : List InMemory.BuildStep)
  /-- The root of a folder module, without making a module. -/
  | rootOf (id : ModuleId) (root : Path)
  | surroundings (request : SurroundingsRequest)
  | makeHost (name : String) (historySize channelCapacity : Nat)
  /-- A second name for a host; the script is performed whenever the list of modules is taken. -/
  | watchHost (name host : String) (script : List Action)
  /-- A host with a given list of modules. -/
  | fixHost (name : String) (modules : List (String × ModuleState))
      (historySize channelCapacity : Nat)
  | host (name : String) (request : HostRequest)
  /-- Subscribes a recorder. It notes every event, and performs the script for its kind as often as
  is said. -/
  | subscribe (name host : String) (scripts : List (EventKind × List Action)) (times : Nat)
  | receive (receiver : String)
  | describeChain (spec : PinSpec) (services : List String)
  | describeFixed (pins : List (String × String)) (services : List String)
  | provider (request : ProviderRequest)
  | makeCatalog (name : String) (pins : PinSpec)
  | catalog (name : String) (request : CatalogRequest)
  | describeContract (contract : Contract)
  /-- Whether the module behind a provider meets a contract. -/
  | accepts (contract : Contract) (provider : String)
  /-- Makes a follower that works as settings say, but for the states that are named. -/
  | makeFollower (name catalog : String) (settings : Settings)
      (startupStates : Option (List ModuleState))
  | follower (name : String) (request : FollowerRequest)
  | makeFinder (name catalog module : String) (folder : Option String)
  | find (finder service : String) (fallback : Option String)
  /-- The contract for a service as a finder's module sees it. -/
  | contractFor (finder service : String)
  | report (request : ReportRequest)
  /-- An action with a document that cannot be read. -/
  | unreadable

instance : Inhabited Action := ⟨.unreadable⟩

/-- Actions to be performed one after another. -/
abbrev Script := List Action

end ServiceRegistry
