import ServiceRegistry.Dict
import ServiceRegistry.Lifecycle
import ServiceRegistry.Text.Slashes

/-!
# Settings

`Settings` decide how modules are searched for descriptors and which implementations are pinned.
They start from defaults and change by layers: a `Settings.Layer` sets some of the fields and adds
pins. Every way of setting the descriptor folder brings it to its written form, so that
`Settings.merge` and the setters keep `Slashes.Folder` of it.
-/

namespace ServiceRegistry

/-- The folder inside a module where descriptors are searched for unless settings name another. -/
def defaultDescriptorFolder : String := "META-INF/services/"

/-- The written form of a folder's name. -/
def folderName (text : String) : String := String.ofList (Slashes.asFolder text.toList)

/-- How the registry works. -/
structure Settings where
  /-- Whether to report details of the work. -/
  debug : Bool := false
  /-- The folder inside each module that holds its descriptors. -/
  descriptorFolder : String := defaultDescriptorFolder
  /-- Whether a provider also remembers that it failed. -/
  cacheFailures : Bool := true
  /-- Whether environment variables can pin implementations. -/
  consultEnvironment : Bool := true
  /-- Implementations pinned by settings, by service. -/
  pins : Dict String String := .empty
  /-- The states of the modules that a follower takes up when it starts. -/
  startupStates : List ModuleState := ModuleState.startupDefaults
deriving DecidableEq

/-- What one source of settings says; what it leaves out stays as it was. -/
structure Settings.Layer where
  debug : Option Bool := none
  descriptorFolder : Option String := none
  cacheFailures : Option Bool := none
  consultEnvironment : Option Bool := none
  /-- Pins that are added to those there are. -/
  pins : Dict String String := .empty
  startupStates : Option (List ModuleState) := none
deriving DecidableEq

namespace Settings

/-- Sets the descriptor folder, in its written form. -/
def setDescriptorFolder (s : Settings) (text : String) : Settings :=
  { s with descriptorFolder := folderName text }

/-- Pins one more implementation. -/
def pin (s : Settings) (service implementation : String) : Settings :=
  { s with pins := s.pins.insert service implementation }

/-- Puts a layer over settings. -/
def merge (s : Settings) (l : Layer) : Settings where
  debug := l.debug.getD s.debug
  descriptorFolder := (l.descriptorFolder.map folderName).getD s.descriptorFolder
  cacheFailures := l.cacheFailures.getD s.cacheFailures
  consultEnvironment := l.consultEnvironment.getD s.consultEnvironment
  pins := s.pins.extend l.pins
  startupStates := l.startupStates.getD s.startupStates

/-- The environment variable that switches the reporting of details. -/
def debugVariable : String := "LOCATOR_DEBUG"

/-- The environment variable that names the descriptor folder. -/
def descriptorFolderVariable : String := "LOCATOR_DESCRIPTOR_DIR"

/-- Applies environment variables: any value but `false` switches the reporting on, and an empty
folder name does not count. -/
def applyVariables (s : Settings) (lookup : String → Option String) : Settings :=
  let s := match lookup debugVariable with
    | some value => { s with debug := value != "false" }
    | none => s
  match lookup descriptorFolderVariable with
  | some folder => if folder.isEmpty then s else s.setDescriptorFolder folder
  | none => s

end Settings

end ServiceRegistry
