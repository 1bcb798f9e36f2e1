import ServiceRegistry.Module.Basic
import ServiceRegistry.Module.Manifest
import ServiceRegistry.Settings.Folder

/-!
# Folders as modules

A folder of the file tree serves as a module: its files are the entries, and its manifest, if there
is one, names the types. Paths with `..` and absolute paths are refused before the tree is looked
at (`FolderModule.pathOf`), so nothing outside the folder can be reached.
-/

namespace ServiceRegistry

/-- A module that is a folder. -/
structure FolderModule where
  id : ModuleId
  name : String
  root : Path
  types : TypeSpace
deriving DecidableEq

namespace FolderModule

/-- Reads the manifest of a folder; without a file it says nothing. -/
def loadManifest (files : FileTree) (root : Path) : Except Error Manifest :=
  let path := root.join Manifest.fileName
  if files.isThere path then
    match files.readText path with
    | .error fault => .error (.io fault)
    | .ok text =>
      match (Json.read? text).bind Manifest.ofJson? with
      | some manifest => .ok manifest
      | none =>
        .error (.module ("Failed to parse " ++ String.ofList path ++ ": " ++ Json.complaint))
  else .ok {}

/-- The display name of a folder without one in its manifest. -/
def defaultName (id : ModuleId) (root : Path) : String :=
  match root.fileName? with
  | some name => String.ofList name
  | none => "module-" ++ id.text

/-- Takes a folder as a module. -/
def load (files : FileTree) (id : ModuleId) (root : Path) : Except Error FolderModule :=
  if files.isFolder root then do
    let manifest ← loadManifest files root
    return {
      id
      name := manifest.name.getD (defaultName id root)
      root
      types := manifest.typeSpace }
  else .error (.module (String.ofList root ++ " is not a directory"))

/-- Whether a path stays below where it starts. -/
def staysBelow (p : Path) : Bool :=
  p.components.all fun
    | .normal _ | .current => true
    | .root | .parent => false

/-- The path of the file tree for a path inside the module. -/
def pathOf (m : FolderModule) (inner : Path) : Except Fault Path :=
  if staysBelow inner then .ok (m.root.join inner)
  else .error ⟨.invalidInput, "invalid entry path: " ++ String.ofList inner⟩

/-- The locations directly in a folder, in ascending order; a folder that is not there is empty. -/
def list (m : FolderModule) (files : FileTree) (folder : List Char) :
    Except Fault (List Location) := do
  let folder := Slashes.asFolder folder
  let path ← m.pathOf folder
  match files.list path with
  | .error fault => if fault.kind = .notFound then .ok [] else .error fault
  | .ok children =>
    .ok (Location.sortUnique (children.map fun child =>
      .ofEntry m.id (folder ++ child.1 ++ (if child.2 then ['/'] else []))))

/-- A folder that serves as a module lists only its own locations. -/
theorem owner?_of_mem_list {m : FolderModule} {files : FileTree} {folder : List Char}
    {ls : List Location} (h : m.list files folder = .ok ls) {l : Location} (hl : l ∈ ls) :
    l.owner? = some m.id := by
  unfold list at h
  cases hpath : m.pathOf (Slashes.asFolder folder) with
  | error fault =>
    simp only [hpath, bind, Except.bind] at h
    cases h
  | ok path =>
    simp only [hpath, bind, Except.bind] at h
    split at h
    · split at h <;> cases h
      exact absurd hl List.not_mem_nil
    · cases h
      obtain ⟨child, -, rfl⟩ := List.mem_map.1 (Location.mem_sortUnique.1 hl)
      exact Location.owner?_ofEntry m.id _

/-- The bytes of an entry. -/
def openEntry (m : FolderModule) (files : FileTree) (l : Location) : Except Fault Stream := do
  let path ← l.ownPath m.id
  files.openStream (← m.pathOf path)

/-- What the module answers while the file tree stays as it is. -/
def view (m : FolderModule) (files : FileTree) : ModuleView where
  list := m.list files
  openEntry := m.openEntry files
  loadType := m.types.load m.id

end FolderModule

end ServiceRegistry
