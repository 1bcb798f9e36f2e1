import ServiceRegistry.Module.Basic
import ServiceRegistry.Settings.Basic

/-!
# Modules in memory

A module whose entries and types are held in memory. It is built by steps that add entries, types
or descriptors; a later entry of the same path takes the place of the earlier one. Folders are not
stored: a path in a folder makes the folder show up in listings.
-/

namespace ServiceRegistry

/-- A module with its entries, by their paths, and its types. -/
structure InMemory where
  id : ModuleId
  name : String
  entries : Dict String Bytes := .empty
  types : TypeSpace := {}

namespace InMemory

/-- A step in building a module. -/
inductive BuildStep where
  /-- Sets the display name. -/
  | name (name : String)
  /-- Sets the folder for the descriptors that follow. -/
  | descriptorFolder (folder : String)
  /-- Adds an entry; slashes in front of its path do not count. -/
  | entry (path : String) (content : Bytes)
  /-- Adds a descriptor of a service. -/
  | service (service : String) (content : Bytes)
  /-- Defines a type. -/
  | defines (typeName : String)
  /-- Imports a type. -/
  | imports (typeName : String) (origin : ModuleId)
  /-- Makes the module refuse a type. -/
  | rejects (typeName : String) (reason : String)
deriving DecidableEq

/-- A module under construction. -/
structure Builder where
  module : InMemory
  /-- The folder for descriptors. -/
  folder : List Char

/-- Adds an entry. -/
def addEntry (m : InMemory) (path : List Char) (content : Bytes) : InMemory :=
  { m with entries := m.entries.insert (String.ofList (Slashes.dropLeading path)) content }

namespace Builder

/-- Nothing but a number, and the name that follows from it. -/
def start (id : ModuleId) : Builder :=
  ⟨{ id, name := "module-" ++ id.text }, defaultDescriptorFolder.toList⟩

/-- Performs a step. -/
def step (b : Builder) : BuildStep → Builder
  | .name name => { b with module := { b.module with name } }
  | .descriptorFolder folder => { b with folder := Slashes.asFolder folder.toList }
  | .entry path content => { b with module := b.module.addEntry path.toList content }
  | .service service content =>
    { b with module := b.module.addEntry (b.folder ++ service.toList) content }
  | .defines name =>
    let types := b.module.types
    { b with module.types := { types with defined := types.defined.insert name () } }
  | .imports name origin =>
    let types := b.module.types
    { b with module.types := { types with imports := types.imports.insert name origin } }
  | .rejects name reason =>
    let types := b.module.types
    { b with module.types := { types with rejected := types.rejected.insert name reason } }

end Builder

/-- The module that steps build, one after another. -/
def build (id : ModuleId) (steps : List BuildStep) : InMemory :=
  (steps.foldl Builder.step (.start id)).module

/-- What the entry at a path contributes to the listing of a folder: itself if it is directly in the
folder, the subfolder it is in otherwise. -/
def child? (folder path : List Char) : Option (List Char) :=
  if folder.isPrefixOf path then
    let rest := path.drop folder.length
    match Text.splitFirst '/' rest with
    | some (sub, _) => if sub.isEmpty then none else some (folder ++ sub ++ ['/'])
    | none => if rest.isEmpty then none else some path
  else none

/-- The paths that a listing of a folder shows, in ascending order. -/
def children (m : InMemory) (folder : List Char) : List String :=
  (SortedSet.ofList (m.entries.keys.filterMap fun path =>
    (child? folder path.toList).map String.ofList)).keys

/-- The locations directly in a folder. -/
def list (m : InMemory) (folder : List Char) : List Location :=
  (m.children (Slashes.asFolder folder)).map fun path => .ofEntry m.id path.toList

/-- A module in memory lists only its own locations. -/
theorem owner?_of_mem_list {m : InMemory} {folder : List Char} {l : Location}
    (h : l ∈ m.list folder) : l.owner? = some m.id := by
  obtain ⟨path, -, rfl⟩ := List.mem_map.1 h
  exact Location.owner?_ofEntry m.id path.toList

/-- The fault of an entry that the module does not have. -/
def noEntry (id : ModuleId) (path : List Char) : Fault :=
  ⟨.notFound, "no entry " ++ String.ofList path ++ " in module " ++ id.text⟩

/-- The bytes of an entry. -/
def openEntry (m : InMemory) (l : Location) : Except Fault Stream := do
  let path ← l.ownPath m.id
  match m.entries.get? (String.ofList path) with
  | some content => .ok (.ofBytes content)
  | none => .error (noEntry m.id path)

/-- What the module answers. -/
def view (m : InMemory) : ModuleView where
  list folder := .ok (m.list folder)
  openEntry := m.openEntry
  loadType := m.types.load m.id

end InMemory

end ServiceRegistry
