import ServiceRegistry.Environment
import ServiceRegistry.Error
import ServiceRegistry.Files.Tree
import ServiceRegistry.Json.Decode
import ServiceRegistry.Json.Reader

/-!
# Folders of settings files

Settings files are JSON documents in a folder: one for the user, below the user's configuration
folder, and one for the project, below the working folder. A file that is not there can be no error
(`SettingsFolder.loadOptional`), while one that is there and does not say what it should always is.

Where the user's configuration folder is, a variable says, or else it is in the user's home folder;
where that is, a variable says, or else the account. If neither does, there are no settings of the
user (`SettingsFolder.user?`), but wherever the account has a home folder there are
(`SettingsFolder.user?_eq_ok`).
-/

namespace ServiceRegistry

/-- Where files and variables come from. -/
structure Surroundings where
  files : FileTree := {}
  environment : Environment := .empty

/-- What messages say about a document that is not well formed or not of its type. -/
def Json.complaint : String := "<json>"

/-- Reads a document of some type from a file. -/
def loadDocument {α : Type} (files : FileTree) (decode : Json.Decoder α) (p : Path) :
    Except Error α :=
  match files.readText p with
  | .error fault =>
    .error (.settings ("Failed to read " ++ String.ofList p ++ ": " ++ fault.text))
  | .ok text =>
    match (Json.read? text).bind decode with
    | some value => .ok value
    | none => .error (.settings ("Failed to parse " ++ String.ofList p ++ ": " ++ Json.complaint))

/-- A folder that holds settings files. -/
structure SettingsFolder where
  path : Path
deriving DecidableEq

namespace SettingsFolder

/-- The name under which the program keeps its settings. -/
def appName : Path := "locator".toList

/-- The user's home folder, if a variable or the account names one. -/
def home? (e : Environment) (account : Option Path) : Option Path :=
  match e.value? "HOME" with
  | some folder => if folder.isEmpty then account else some folder.toList
  | none => account

/-- The folder for the settings of all the user's programs, if there is one. -/
def configurationHome? (e : Environment) (account : Option Path) : Option Path :=
  match e.value? "XDG_CONFIG_HOME" with
  | some folder =>
    if Path.isAbsolute folder.toList then some folder.toList
    else (home? e account).map (·.join ".config".toList)
  | none => (home? e account).map (·.join ".config".toList)

/-- An account with a home folder has a folder for settings. -/
theorem isSome_configurationHome? (e : Environment) (account : Path) :
    (configurationHome? e (some account)).isSome = true := by
  have hhome : (home? e (some account)).isSome = true := by
    unfold home?
    split
    · split <;> rfl
    · rfl
  unfold configurationHome?
  split
  · split
    · rfl
    · rwa [Option.isSome_map]
  · rwa [Option.isSome_map]

/-- The user's settings, for an account with a home folder. -/
def user (e : Environment) (account : Path := "/root".toList) : SettingsFolder :=
  ⟨((configurationHome? e (some account)).get (isSome_configurationHome? e account)).join appName⟩

/-- The user's settings. -/
def user? (around : Surroundings) : Except Error SettingsFolder :=
  match configurationHome? around.environment around.files.accountHome with
  | some folder => .ok ⟨folder.join appName⟩
  | none => .error (.settings "Cannot find config directory")

/-- There are settings of the user wherever the account has a home folder. -/
theorem user?_eq_ok {around : Surroundings} {account : Path}
    (h : around.files.accountHome = some account) :
    user? around = .ok (user around.environment account) := by
  unfold user? user
  rw [h]
  split
  · rename_i folder hfolder
    simp [hfolder]
  · rename_i hnone
    have hsome := isSome_configurationHome? around.environment account
    rw [hnone] at hsome
    cases hsome

/-- The settings of the project in a folder. -/
def project (root : Path) : SettingsFolder := ⟨root.join ('.' :: appName)⟩

/-- The settings of the project in the working folder. -/
def workingProject (files : FileTree) : SettingsFolder := project files.workingPath

/-- The path of a file in the folder. -/
def filePath (f : SettingsFolder) (name : String) : Path := f.path.join name.toList

/-- Reads a document of some type. -/
def load {α : Type} (f : SettingsFolder) (files : FileTree) (decode : Json.Decoder α)
    (name : String) : Except Error α :=
  loadDocument files decode (f.filePath name)

/-- Reads a document of some type, if the file is there. -/
def loadOptional {α : Type} (f : SettingsFolder) (files : FileTree) (decode : Json.Decoder α)
    (name : String) : Except Error (Option α) :=
  if files.isThere (f.filePath name) then (f.load files decode name).map some else .ok none

end SettingsFolder

end ServiceRegistry
