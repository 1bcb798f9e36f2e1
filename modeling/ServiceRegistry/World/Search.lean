import ServiceRegistry.World.Scanning

/-!
# Finding an implementation on behalf of a module

A finder looks for an implementation of a service as one module sees it: first in a catalog, then
among the module's own descriptors, then among the pins, and last it takes a type that the caller
names.
-/

namespace ServiceRegistry

/-- A catalog, and the module on whose behalf it is searched. -/
structure Finder where
  catalog : Nat
  context : Module
  /-- The folder of the module's own descriptors. -/
  folder : String := defaultDescriptorFolder

/-- A finder that searches the module in a folder of its own, if one is named. -/
def Finder.make (catalog : Nat) (context : Module) (folder : Option String) : Finder where
  catalog := catalog
  context := context
  folder := (folder.map folderName).getD defaultDescriptorFolder

namespace World

/-- Locates the preferred type for a service in a catalog. -/
def locate (n : Nat) (c : Contract) (service : String) (w : World) : Option LoadedType × World :=
  onStock (·.locate (w.catalog n) w.environment c service) w

/-- Locates all types for a service in a catalog. -/
def locateAll (n : Nat) (c : Contract) (service : String) (w : World) : List LoadedType × World :=
  onStock (·.locateAll (w.catalog n) c service) w

/-- The first answer that is there: from the catalog, by the contract that the module sees. -/
def findInCatalog (f : Finder) (service : String) (w : World) : Option LoadedType × World :=
  let (contract, w) := onStock (·.contractFor f.context service) w
  w.locate f.catalog contract service

/-- The location of the module's own descriptor of a service. -/
def ownDescriptor (f : Finder) (service : String) : Location :=
  .ofEntry f.context.id (f.folder.toList ++ service.toList)

/-- The type of the module's own descriptor of a service, if the listing shows the descriptor. -/
def findOwn (f : Finder) (service : String) (listing : Except Fault (List Location)) (w : World) :
    Option LoadedType × World :=
  let location := ownDescriptor f service
  let shown := match listing with
    | .ok locations => locations.contains location
    | .error _ => false
  if shown then
    let (p, w) := makeProvider
      (fun serial => { serial, service, location, module := f.context, cacheFailures := false }) w
    let (r, w) := onStock (·.resolve p) w
    (r.toOption, w)
  else (none, w)

/-- The type that is pinned for a service, if the module can load it. -/
def findPinned (f : Finder) (service : String) (w : World) : Option LoadedType × World :=
  match (w.catalog f.catalog).pins.lookup w.environment service with
  | none => (none, w)
  | some name =>
    let (r, w) := onStock (·.loadType f.context name) w
    (r.toOption, w)

/-- The type that the caller names for the case that nothing else is found. -/
def findFallback (f : Finder) (service : String) (fallback : Option String) (w : World) :
    Except Error LoadedType × World :=
  match fallback with
  | some name =>
    let (r, w) := onStock (·.loadType f.context name) w
    (r.mapError .typeLoad, w)
  | none => (.error (.notFound ("Provider for " ++ service ++ " cannot be found")), w)

/-- Finds an implementation of a service. -/
def find (f : Finder) (service : String) (fallback : Option String) :
    Work (Except Error LoadedType) := do
  match ← Interruptible.act (findInCatalog f service) with
  | some t => return .ok t
  | none =>
    let listing ← list f.context f.folder
    match ← Interruptible.act (findOwn f service listing) with
    | some t => return .ok t
    | none =>
      match ← Interruptible.act (findPinned f service) with
      | some t => return .ok t
      | none => Interruptible.act (findFallback f service fallback)

end World

end ServiceRegistry
