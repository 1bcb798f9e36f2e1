import ServiceRegistry.Session.Basic

/-!
# Performing actions

Every action is looked up by its names and becomes an operation on the session. An operation on a
host or follower keeps it in existence until it is done, whatever happens to the name meanwhile.
-/

namespace ServiceRegistry

open Turn

namespace Session

/-- Names what an action has made and answers that it is done. -/
def keep (f : Desk → Desk) : Turn Answer := do
  changeDesk f
  return .done

/-- Makes a module object of a recipe. -/
def makeModule (name : String) (recipe : Recipe) (script : Option Script) : Turn Answer := do
  match recipe.make (← askWorld (·.stock.files)) with
  | .error e => return .failed e
  | .ok content =>
    let object ← askWorld (·.stock.objects.next)
    let m : Module := ⟨object, content.id, content.name⟩
    changeWorld fun w => { w with stock.objects := w.stock.objects.set object { content } }
    changeDesk fun d => { d with
      modules := d.modules.insert name m
      firstListings := d.firstListings.set object script }
    return .module m

/-- Changes the content of a module object. -/
def swap (m : Module) (recipe : Recipe) : Turn Answer := do
  match recipe.make (← askWorld (·.stock.files)) with
  | .error e => return .failed e
  | .ok content =>
    changeWorld fun w => { w with stock := w.stock.update m fun o => { o with content } }
    return .done

/-- Asks a module. -/
def askModule (m : Module) : ModuleRequest → Turn Answer
  | .counts => do
    let o ← askWorld fun w => w.stock.objects.get m.object
    return .counts o.listed o.opened o.loaded
  | .list folder => do
    match ← ofWork (World.list m folder) with
    | .ok ls => return .locations ls
    | .error f => return .fault f
  | .openEntry location => do
    match (← actWorld (World.onStock (·.openEntry m location))).bind Stream.readAll with
    | .ok bytes => return .bytes bytes
    | .error f => return .fault f
  | .loadType name => do
    match ← actWorld (World.onStock (·.loadType m name)) with
    | .ok t => return .type t
    | .error f => return .typeFault f

/-- Changes files and variables. -/
def changeSurroundings (r : SurroundingsRequest) : Turn Answer := do
  let files (f : FileTree → FileTree) : Turn Unit :=
    changeWorld fun w => { w with stock.files := f w.stock.files }
  match r with
  | .writeFile path content => files (·.write path content)
  | .makeFolder path => files (·.makeFolder path)
  | .remove path => files (·.remove path)
  | .setVariable name value =>
    changeWorld fun w => { w with environment := Environment.set w.environment name value }
  return .done

/-- Makes a host and names it. -/
def makeHost (name : String) (h : Host) (own : Bool) : Turn Answer := do
  let n ← askWorld (·.hosts.next)
  changeWorld (·.setHost n h)
  keep fun d => { d with hosts := d.hosts.insert name ⟨{ host := n }, own⟩ }

/-- Asks a host. -/
def askHost (handle : HostHandle) (r : HostRequest) : Turn Answer :=
  let n := handle.host
  match r with
  | .takeId => do
    return .id (← actWorld fun w =>
      let (id, h) := (w.host n).takeId
      (id, w.setHost n h))
  | .install m => named (·.modules.get? m) fun m => do
    return .ofHost .id (← ofWork (World.install n m))
  | .update m => named (·.modules.get? m) fun m => do
    return .ofHost (fun _ => .done) (← ofWork (World.update n m))
  | .resolve id => do return .ofHost (fun _ => .done) (← ofWork (World.resolve n id))
  | .start id => do return .ofHost (fun _ => .done) (← ofWork (World.start n id))
  | .stop id => do return .ofHost (fun _ => .done) (← ofWork (World.stop n id))
  | .unresolve id => do return .ofHost (fun _ => .done) (← ofWork (World.unresolve n id))
  | .uninstall id => do return .ofHost (fun _ => .done) (← ofWork (World.uninstall n id))
  | .state id => do return .state (← askWorld fun w => (w.host n).state? id)
  | .moduleName id => do
    return .text (← askWorld fun w => ((w.host n).module? id).map (·.name))
  | .modules => do return .hosted (← ofWork (World.modules handle))
  | .unsubscribe listener => named (·.listeners.get? listener) fun id => do
    let bus ← askWorld fun w => (w.host n).bus
    changeWorld (·.setBus n (bus.unsubscribe id))
    return .flag (bus.isSubscribed id)
  | .publish kind m => named (·.modules.get? m) fun m => do
    ofWork (World.publish n ⟨kind, m⟩)
    return .done
  | .history limit => do
    return .events (← askWorld fun w => (w.host n).bus.recent limit)
  | .clearHistory => do
    changeWorld fun w => w.setBus n (w.host n).bus.clearHistory
    return .done
  | .busCounts => do
    let bus ← askWorld fun w => (w.host n).bus
    return .busCounts bus.listeners.length bus.eventCount
  | .makeReceiver name => do
    let position ← askWorld fun w => (w.host n).bus.eventCount
    keep fun d => { d with receivers := d.receivers.insert name ⟨n, position⟩ }

/-- Keeps a host in existence while an operation is in progress. -/
def keepingHost {α : Type} (handle : HostHandle) (turn : Turn α) : Turn α := do
  changeDesk fun d => { d with busyHosts := handle.host :: d.busyHosts }
  let a ← turn
  changeDesk fun d => { d with busyHosts := d.busyHosts.erase handle.host }
  return a

/-- Subscribes a recorder to a host. -/
def subscribe (name : String) (handle : HostHandle) (scripts : List (EventKind × Script))
    (times : Nat) : Turn Answer := do
  let recorder ← askDesk (·.recorders.next)
  let id ← actWorld fun w =>
    let (id, bus) := (w.host handle.host).bus.subscribe (.recorder recorder)
    (id, w.setBus handle.host bus)
  changeDesk fun d => { d with
    recorders := d.recorders.set recorder
      { name, cues := scripts.map fun s => ⟨s.1, s.2, times⟩ }
    listeners := d.listeners.insert name id }
  return .listener id

/-- Reads on from a bus. -/
def receive (name : String) (r : Receiver) : Turn Answer := do
  let (reception, position) ← askWorld fun w => (w.host r.host).bus.receive r.position
  let closed ← Interruptible.ask fun s => !hostExists s r.host
  changeDesk fun d => { d with receivers := d.receivers.insert name { r with position } }
  return .reception reception closed

/-- A contribution as it is shown now. -/
def viewGroup (c : Contribution) (folder : Option String) (w : World) : GroupView where
  module := c.module
  providers := c.providers.map fun p => (p, (w.stock.memo p).isSome)
  folder

/-- The provider of a contribution's place, if there is one. -/
def takeFromGroup (c : Contribution) (index : Nat) (name : String) : Turn Answer :=
  match c.providers[index]? with
  | some p => keep fun d => { d with providers := d.providers.insert name p }
  | none => return .nothing

/-- Asks providers and contributions. -/
def askProvider : ProviderRequest → Turn Answer
  | .make name m service location cacheFailures => named (·.modules.get? m) fun m => do
    let location := location.getD
      (.ofEntry m.id (defaultDescriptorFolder.toList ++ service.toList))
    let p ← actWorld (World.makeProvider fun serial =>
      { serial, service, location, module := m, cacheFailures })
    keep fun d => { d with providers := d.providers.insert name p }
  | .resolve name => named (·.providers.get? name) fun p => do
    let r ← actWorld (World.onStock (·.resolve p))
    return .resolution r (← askWorld fun w => (w.stock.memo p).isSome)
  | .describe name => named (·.providers.get? name) fun p => do
    return .provider p (← askWorld (·.stock.memo p))
  | .compare first second => named (·.providers.get? first) fun p =>
    named (·.providers.get? second) fun q => return .equality (p.location = q.location)
  | .scan name m rule => named (·.modules.get? m) fun m => do
    let c ← ofWork (World.scan rule m)
    changeDesk fun d => { d with groups := d.groups.insert name c }
    return .group (← askWorld (viewGroup c rule.folder))
  | .group name id providers =>
    named (fun d => providers.mapM d.providers.get?) fun ps => do
      let c : Contribution := ⟨id, ps⟩
      changeDesk fun d => { d with groups := d.groups.insert name c }
      return .group (← askWorld (viewGroup c none))
  | .describeGroup name => named (·.groups.get? name) fun c => do
    return .group (← askWorld (viewGroup c none))
  | .takeFromGroup group index name => named (·.groups.get? group) fun c =>
    takeFromGroup c index name

/-- Makes a catalog and names it. -/
def makeCatalog (name : String) (pins : PinSource) : Turn Answer := do
  let n ← askWorld (·.catalogs.next)
  changeWorld fun w => { w with catalogs := w.catalogs.set n { pins } }
  keep fun d => { d with catalogs := d.catalogs.insert name n }

/-- Changes the table of a catalog. -/
def changeTable (n : Nat) (f : Table → Table) : Turn Unit :=
  changeWorld fun w => w.setTable n (f (w.catalog n).table)

/-- Asks a catalog. -/
def askCatalog (n : Nat) : CatalogRequest → Turn Answer
  | .register service p => named (·.providers.get? p) fun p => do
    changeTable n (·.register service p)
    return .done
  | .unregister service p => named (·.providers.get? p) fun p => do
    let t ← askWorld fun w => (w.catalog n).table
    changeTable n (·.unregister service p.location)
    return .flag (t.lists service p.location)
  | .registerGroup g => named (·.groups.get? g) fun c => do
    changeTable n (·.registerAll c)
    return .done
  | .unregisterGroup g => named (·.groups.get? g) fun c => do
    let t ← askWorld fun w => (w.catalog n).table
    changeTable n (·.unregisterAll c)
    return .number (t.removals c.providers)
  | .locate service contract => do
    return .typeOrNone
      (← actWorld (World.locate n (contract.getD { name := service }) service))
  | .locateAll service contract => do
    return .types (← actWorld (World.locateAll n (contract.getD { name := service }) service))
  | .describe => do return .catalog (← askWorld (·.catalog n))
  | .candidates service => do
    return .locations (← askWorld fun w =>
      ((w.catalog n).table.candidates service).map (·.location))
  | .contains service => do
    return .flag (← askWorld fun w => (w.catalog n).table.contains service)
  | .pin service => do
    let pins ← askWorld fun w => (w.catalog n).pins
    return .pin pins.name (pins.lookup (← askWorld (·.environment)) service)

/-- Lets go of what a name for a follower stood for. -/
def releaseFollower : Option Nat → Turn Unit
  | some n => changeWorld (·.release n)
  | none => pure ()

/-- Makes a follower and names it; the follower of that name before is let go of. -/
def makeFollower (name : String) (f : Follower) : Turn Answer := do
  let n ← askWorld (·.followers.next)
  changeWorld (·.setFollower n f)
  let before ← askDesk (·.followers.get? name)
  changeDesk fun d => { d with followers := d.followers.insert name n }
  releaseFollower before
  return .done

/-- Asks a follower. -/
def askFollower (n : Nat) : FollowerRequest → Turn Answer
  | .start host => named (·.hosts.get? host) fun h => do
    return .ofExcept (fun _ => .done)
      (← keepingHost h.handle (ofWork (World.holding n (World.startFollower n h.handle))))
  | .stop => do
    changeWorld (·.stopFollower n)
    return .done
  | .drop => return .done
  | .arrived m => named (·.modules.get? m) fun m => do
    ofWork (World.holding n (World.arrived n m))
    return .done
  | .departed id => do
    ofWork (World.departed n id)
    return .done
  | .contributions id => do
    return .services (← askWorld fun w => (w.follower n).contributions? id)
  | .describe => do
    return ← askWorld fun w => .follower (w.follower n) (w.tableOf (w.follower n)).count

/-- Lets go of the follower of a name, if there is one. -/
def dropFollower (name : String) : Turn Answer := do
  let before ← askDesk (·.followers.get? name)
  changeDesk fun d => { d with followers := d.followers.erase name }
  releaseFollower before
  return .done

/-- Makes a report. -/
def report : ReportRequest → Turn Answer
  | .modules host follower => named (·.hosts.get? host) fun h =>
    named (·.followers.get? follower) fun n => do
      let r ← keepingHost h.handle (ofWork (World.holding n do
        let hosted ← World.modules h.handle
        Interruptible.ask fun w => Report.ofModules hosted (w.follower n)))
      return .report r
  | .located catalog service => named (·.catalogs.get? catalog) fun n => do
    return .report (.located service (← actWorld (World.locate n { name := service } service)))
  | .locatedAll catalog service => named (·.catalogs.get? catalog) fun n => do
    return .report
      (.locatedAll service (← actWorld (World.locateAll n { name := service } service)))
  | .services catalog => named (·.catalogs.get? catalog) fun n => do
    return .report (← askWorld fun w => .ofTable (w.catalog n).table)

/-- Performs an action. -/
def perform : Action → Turn Answer
  | .makeModule name recipe script => makeModule name recipe script
  | .swap name recipe => named (·.modules.get? name) fun m => swap m recipe
  | .module name r => named (·.modules.get? name) fun m => askModule m r
  | .typesOf id steps => return .typeSpace (InMemory.build id steps).types
  | .rootOf id root => do
    return .ofExcept (fun m => .path m.root)
      (FolderModule.load (← askWorld (·.stock.files)) id root)
  | .surroundings r => changeSurroundings r
  | .makeHost name historySize capacity =>
    makeHost name { bus := .make historySize capacity } true
  | .watchHost name host script => named (·.hosts.get? host) fun h => do
    let watch ← askDesk (·.watches.next)
    keep fun d => { d with
      watches := d.watches.set watch script
      hosts := d.hosts.insert name ⟨{ h.handle with watch := some watch }, false⟩ }
  | .fixHost name modules historySize capacity =>
    named (fun d => modules.mapM fun m => (d.modules.get? m.1).map fun found =>
      (⟨found, m.2⟩ : Hosted)) fun hosted =>
      makeHost name { modules := hosted, bus := .make historySize capacity } false
  | .host name r => named (·.hosts.get? name) fun h =>
    keepingHost h.handle (askHost h.handle r)
  | .subscribe name host scripts times => named (·.hosts.get? host) fun h =>
    subscribe name h.handle scripts times
  | .receive name => named (·.receivers.get? name) (receive name)
  | .describeChain spec services => do
    let env ← askWorld (·.environment)
    match spec.source with
    | .chain sources =>
      return .chain sources (services.map fun s => PinSource.lookupFirst env s sources)
    | source => return .chain [source] (services.map fun s => source.lookup env s)
  | .describeFixed pins services =>
    let pins : Dict String String := .ofList pins
    return .fixedPins pins.size (services.map pins.get?)
  | .provider r => askProvider r
  | .makeCatalog name pins => makeCatalog name pins.source
  | .catalog name r => named (·.catalogs.get? name) fun n => askCatalog n r
  | .describeContract c => return .contract c
  | .accepts c name => named (·.providers.get? name) fun p => do
    return .flag (← actWorld (World.onStock (·.accepts c p)))
  | .makeFollower name catalog settings states => named (·.catalogs.get? catalog) fun n =>
    makeFollower name ((Follower.ofSettings n settings).startingWith states)
  | .follower name .drop => dropFollower name
  | .follower name r => named (·.followers.get? name) fun n => askFollower n r
  | .makeFinder name catalog m folder => named (·.catalogs.get? catalog) fun n =>
    named (·.modules.get? m) fun m =>
      keep fun d => { d with finders := d.finders.insert name (.make n m folder) }
  | .find finder service fallback => named (·.finders.get? finder) fun f => do
    return .ofExcept .type (← ofWork (World.find f service fallback))
  | .contractFor finder service => named (·.finders.get? finder) fun f => do
    return .contract (← actWorld (World.onStock (·.contractFor f.context service)))
  | .report r => report r
  | .unreadable => return .unreadable

end Session

end ServiceRegistry
