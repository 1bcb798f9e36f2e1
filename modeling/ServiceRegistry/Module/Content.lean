import ServiceRegistry.Module.Folder
import ServiceRegistry.Module.InMemory

/-!
# Contents of modules

What a module object contains: entries in memory, a folder of the file tree, or answers that are
fixed in advance and can include any fault.
-/

namespace ServiceRegistry

/-- A module whose answers are laid down, whatever the question. -/
structure FixedAnswers where
  id : ModuleId
  name : String
  /-- The listing of every folder. -/
  entries : Except Fault (List Location)
  /-- The streams of the entries that can be opened. -/
  streams : List (String × Except Fault Stream)
  types : TypeSpace

/-- What the module answers; the fault of an entry that is not there says its location. -/
def FixedAnswers.view (m : FixedAnswers) : ModuleView where
  list _ := m.entries
  openEntry l := (m.streams.lookup l.text).getD (.error ⟨.notFound, l.text⟩)
  loadType := m.types.load m.id

/-- What a module object contains. -/
inductive Content where
  | inMemory (m : InMemory)
  | folder (m : FolderModule)
  | fixed (m : FixedAnswers)

namespace Content

instance : Inhabited Content := ⟨.inMemory { id := default, name := "" }⟩

/-- The number that the content goes by. -/
def id : Content → ModuleId
  | inMemory m => m.id
  | folder m => m.id
  | fixed m => m.id

/-- The display name that the content goes by. -/
def name : Content → String
  | inMemory m => m.name
  | folder m => m.name
  | fixed m => m.name

/-- What a module with this content answers while the file tree stays as it is. -/
def view (files : FileTree) : Content → ModuleView
  | inMemory m => m.view
  | folder m => m.view files
  | fixed m => m.view

end Content

/-- How a module is made. -/
inductive Recipe where
  /-- By steps, in memory. -/
  | inMemory (id : ModuleId) (steps : List InMemory.BuildStep)
  /-- From a folder. -/
  | folder (id : ModuleId) (root : Path)
  /-- With answers laid down. -/
  | fixed (answers : FixedAnswers)

/-- The content that a recipe makes of the present file tree. -/
def Recipe.make (files : FileTree) : Recipe → Except Error Content
  | inMemory id steps => .ok (.inMemory (.build id steps))
  | folder id root => (FolderModule.load files id root).map .folder
  | fixed answers => .ok (.fixed answers)

end ServiceRegistry
