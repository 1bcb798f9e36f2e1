import ServiceRegistry.Settings.Document
import ServiceRegistry.Settings.Folder

/-!
# Where settings come from

The effective settings are the defaults under the layers of the user's file, the project's file and
a file that was asked for, in this order, under the environment variables. The first two files may
be missing, and the folder of the first one too; the third may not.
-/

namespace ServiceRegistry.Settings

/-- The name of a settings file in its folder. -/
def fileName : String := "config.json"

/-- The folders in which settings are looked for, in order: the user's, if there is one, and the
project's. -/
def folders (around : Surroundings) : List SettingsFolder :=
  (SettingsFolder.user? around).toOption.toList ++ [SettingsFolder.workingProject around.files]

/-- The layer of a file that has to be there. -/
def loadLayer (files : FileTree) (p : Path) : Except Error Layer :=
  loadDocument files Layer.ofJson? p

/-- Puts the layer of a folder's file over settings, if there is such a file. -/
def mergeFolder (s : Settings) (files : FileTree) (folder : SettingsFolder) :
    Except Error Settings := do
  match ← folder.loadOptional files Layer.ofJson? fileName with
  | some layer => return s.merge layer
  | none => return s

/-- Puts the layer of the user's file over settings, if there are settings of the user. -/
def mergeUser (s : Settings) (around : Surroundings) : Except Error Settings :=
  match SettingsFolder.user? around with
  | .ok folder => s.mergeFolder around.files folder
  | .error _ => .ok s

/-- The effective settings, with one more file if a path is given. -/
def load (around : Surroundings) (explicit : Option Path) : Except Error Settings := do
  let s : Settings := {}
  let s ← s.mergeUser around
  let s ← s.mergeFolder around.files (SettingsFolder.workingProject around.files)
  let s ← match explicit with
    | some p => (loadLayer around.files p).map s.merge
    | none => pure s
  return s.applyVariables around.environment.value?

end ServiceRegistry.Settings
